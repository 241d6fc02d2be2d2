import DataGrid.Description.Basic
import DataGrid.Filter.Config

/-!
# Descriptions of filters

## Main definitions

* `Widget.describe`, `FilterDescriptor.describe`, `FilterConfig.describe`: the descriptions
-/

namespace DataGrid

open Description

/-- The description of an option. -/
def SelectOption.describe (o : SelectOption) : String :=
  record "SelectOption" [("value", text o.value), ("label", text o.label)]

/-- **Description of a widget.** -/
def Widget.describe : Widget → String
  | textField initial => record "TextField" [("default", text initial)]
  | select options initial displayFields =>
    record "Select" [("options", list (options.map SelectOption.describe)),
      ("default", optional (initial.map text)),
      ("display_fields", list (displayFields.map text))]
  | autocomplete endpoint displayFields =>
    record "Autocomplete" [("endpoint", text endpoint),
      ("display_fields", list (displayFields.map text))]
  | checkbox initial => record "Checkbox" [("default", bool initial)]
  | dateRange start stop =>
    record "DateRange" [("from", optional (start.map (·.text))),
      ("to", optional (stop.map (·.text)))]
  | none => "None"

/-- The description of a sort status. -/
def SortStatus.describe : SortStatus → String
  | none => "None"
  | unsorted => "Unsorted"
  | ascending => "Asc"
  | descending => "Desc"

/-- **Description of a descriptor.** -/
def FilterDescriptor.describe (d : FilterDescriptor) : String :=
  record "FilterDescriptor" [("name", text d.name), ("field_path", text d.fieldPath),
    ("label_key", text d.labelKey), ("widget", d.widget.describe),
    ("displayed", bool d.displayed), ("mandatory", bool d.mandatory), ("sort", d.sort.describe)]

/-- **Description of a filter.** -/
def FilterConfig.describe {ε : Type} (config : FilterConfig ε) : String :=
  record "FilterConfig" [("descriptors", list (config.descriptors.map FilterDescriptor.describe)),
    ("post_queries", list (config.postQueries.map (text ·.1)))]

end DataGrid
