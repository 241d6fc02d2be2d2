import DataGrid.Calendar.Pattern
import DataGrid.Formatter.Number
import DataGrid.Markup.Script
import DataGrid.Markup.Template
import DataGrid.Message.Catalog
import DataGrid.Value.Basic

/-!
# Formatters

A formatter turns the value of a cell into markup. Text is escaped where it enters markup;
only markup from the settings and from templates goes in as it is.

## Main definitions

* `Context`: the settings and messages that a formatter may use
* `renderPlain`, `renderItem`: a value as escaped text, and a reference as a link
* `Formatter`, `Formatter.apply`: the formatters and what they write
-/

namespace DataGrid

open Calendar Markup

/-- What a formatter may use besides the value. -/
structure Context where
  settings : FormatSettings
  messages : Resolver

/-- The placeholder for nothing. -/
def Context.empty (ctx : Context) : String := ctx.settings.emptyPlaceholder

/-- **Plain markup.** The escaped plain text of a value, or the placeholder. -/
def renderPlain (v : Value) (ctx : Context) : String :=
  if v.isEmpty then ctx.empty else escape v.plainText

/-- A reference with an address as a link, any other value as plain markup. -/
def renderItem (v : Value) (ctx : Context) : String :=
  match v with
  | .ref ⟨_, label, some url⟩ => "<a href=\"" ++ escape url ++ "\">" ++ escape label ++ "</a>"
  | v => renderPlain v ctx

/-- A moment by a pattern, or its value's plain text if the pattern does not fit. -/
def renderMoment (pattern : String) (m : Moment) (v : Value) : String :=
  match m.format? pattern with
  | some s => s
  | none => escape v.plainText

/-- **Formatter.** Links are made from an address that is computed from the row. -/
inductive Formatter (ρ : Type) where
  /-- Escaped text. -/
  | plain
  /-- Flags by the markup of the settings. -/
  | boolean
  /-- Dates and points in time by the patterns of the settings. -/
  | date
  /-- Numbers with the separators of the settings. -/
  | number
  /-- Items with the separator of the settings, linked if they have an address. -/
  | list
  /-- A reference, linked if it has an address. -/
  | reference
  /-- An image by its address. -/
  | image
  /-- A template for an address. -/
  | stringFormat (template : String) (url : ρ → String)
  /-- A template for an address and for the prompt with the given key. -/
  | linkWithConfirmation (template messageKey : String) (url : ρ → String)
  /-- Markup of any kind. -/
  | custom (render : ρ → Value → Context → String)

namespace Formatter

variable {ρ : Type}

/-- An edit icon. -/
def editLink (url : ρ → String) : Formatter ρ := stringFormat editTemplate url

/-- A delete icon with the usual prompt. -/
def deleteLink (url : ρ → String) : Formatter ρ :=
  linkWithConfirmation deleteTemplate deletePromptKey url

/-- The name of a kind of formatter. -/
def kind : Formatter ρ → String
  | plain => "plain"
  | boolean => "boolean"
  | date => "date"
  | number => "number"
  | list => "list"
  | reference => "reference"
  | image => "image"
  | stringFormat _ _ => "string_format"
  | linkWithConfirmation _ _ _ => "link_with_confirmation"
  | custom _ => "custom"

/-- **Application.** The markup of a value in a row. -/
def apply (f : Formatter ρ) (row : ρ) (v : Value) (ctx : Context) : String :=
  match f with
  | plain => renderPlain v ctx
  | boolean =>
    match v with
    | .bool true => ctx.settings.booleanTrue
    | .bool false => ctx.settings.booleanFalse
    | v => renderPlain v ctx
  | date =>
    match v with
    | .date d => renderMoment ctx.settings.datePattern ⟨d, none⟩ v
    | .dateTime t => renderMoment ctx.settings.datetimePattern ⟨t.date, some t.time⟩ v
    | v => renderPlain v ctx
  | number =>
    match v with
    | .decimal d => formatDecimal d ctx.settings
    | .integer n => formatDecimal (.ofInt64 n) ctx.settings
    | v => renderPlain v ctx
  | list =>
    match v with
    | .list (item :: rest) =>
      ctx.settings.listSeparator.intercalate ((item :: rest).map (renderItem · ctx))
    | v => renderItem v ctx
  | reference => renderItem v ctx
  | image =>
    match v with
    | .text url =>
      if url.isEmpty then ctx.settings.imagePlaceholder
      else "<img src=\"" ++ escape url ++ "\" class=\"img-thumbnail\"/>"
    | _ => ctx.settings.imagePlaceholder
  | stringFormat template url => fillUrl template (escape (url row))
  | linkWithConfirmation template key url =>
    fillUrl (fillMessage template (escapeScript (ctx.messages.message key [])))
      (escape (url row))
  | custom render => render row v ctx

end Formatter

end DataGrid
