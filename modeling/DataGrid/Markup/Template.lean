import DataGrid.Text.Replace

/-!
# Link templates and cell classes

The fixed pieces of markup that columns are made of. A template has places for an address
and for a prompt; a class says how a cell is laid out.

## Main definitions

* `editTemplate`, `deleteTemplate`: icons that link to an edit and to a delete page
* `fillUrl`, `fillMessage`: a text put into the places of a template
* `skipClass`: the class of cells that leave the row's own link alone
-/

namespace DataGrid.Markup

/-- An edit icon that links to an address. -/
def editTemplate : String :=
  "<a href=\"\x7burl\x7d\"><span class=\"fa fa-pencil-square-o\"></span></a>"

/-- A delete icon that asks before it goes to an address. -/
def deleteTemplate : String :=
  "<a onclick=\"return maf_confirmAction('\x7bmessage\x7d');\" href=\"\x7burl\x7d\">" ++
    "<span class=\"fa fa-trash\"></span></a>"

/-- The key of the prompt that a delete icon shows. -/
def deletePromptKey : String := "default.delete.confirmation.message"

/-- The class of a column one twelfth wide. -/
def narrowClass : String := "col-md-1"

/-- The class of a column two twelfths wide. -/
def mediumClass : String := "col-md-2"

/-- The class of cells set to the right. -/
def rightClass : String := "text-right"

/-- **Skip class.** Cells of this class do not follow the row's link. -/
def skipClass : String := "rowlink-skip"

/-- The template with a text in each of its places for an address. -/
def fillUrl (template text : String) : String := Text.replace "\x7burl\x7d" text template

/-- The template with a text in each of its places for a prompt. -/
def fillMessage (template text : String) : String := Text.replace "\x7bmessage\x7d" text template

end DataGrid.Markup
