import RowSync.Value.Basic
import RowSync.Text.Quoted

/-!
Values as diagnostics show them: the kind of the value, then its content between parentheses.
-/

set_option autoImplicit false

namespace RowSync.Value

def diagnostic : Value → String
  | null => "Null"
  | bool b => if b then "Bool(true)" else "Bool(false)"
  | int16 n => s!"I16({n.toInt})"
  | int32 n => s!"I32({n.toInt})"
  | int64 n => s!"I64({n.toInt})"
  | float32 x => s!"F32({x.diagnosticText})"
  | float64 x => s!"F64({x.diagnosticText})"
  | decimal d => s!"Decimal({d.text})"
  | text s => "Text(" ++ Text.quoted s ++ ")"
  | bytes b => "Bytes(" ++ listed ", " b ++ ")"
  | uuid u => s!"Uuid({u.text})"
  | dateTime t => "DateTime(" ++ t.text "T" ++ ")"
  | instant t => "DateTimeTz(" ++ t.text "T" ++ "Z)"
  | date d => s!"Date({d.text})"
  | time t => s!"Time({t.text})"

end RowSync.Value
