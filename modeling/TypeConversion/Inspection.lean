import TypeConversion.Text.Quoted
import TypeConversion.Converter
import TypeConversion.UserDefined.Resolution
import TypeConversion.Host

/-!
# Inspection

Texts that show the parts of converters, of the conversions in their plans and of operators, field
by field. Names stand in quotes, and what is not shown stands as two dots.
-/

namespace TypeConversion.Inspection

/-- A record of named fields. -/
def fields (name : String) (shown : List (String × String)) (hides : Bool) : String :=
  let texts := shown.map fun (field, text) => field ++ ": " ++ text
  name ++ " \x7b " ++ ", ".intercalate (texts ++ (if hides then [".."] else [])) ++ " \x7d"

/-- A truth value. -/
def truth (b : Bool) : String := if b then "true" else "false"

/-- The rule of a spliced conversion, if there is one. -/
def splice (s : Splice) : String :=
  match s.plan? with
  | some plan => "Some(" ++ plan.category.name ++ ")"
  | none => "None"

/-- The mode of casts. -/
def overflow : OverflowMode → String
  | .checked => "Checked"
  | .unchecked => "Unchecked"

/-- A converter with its instructions. -/
def converter (c : Converter) : String :=
  fields "Converter"
    [("plan", Quoted.text c.plan.text),
      ("steps", "[" ++ ", ".intercalate (c.program.map Instruction.text) ++ "]"),
      ("overflow", overflow c.overflow)]
    true

/-- An operator. -/
def operator (o : Operator) : String :=
  fields "UserConversionOperator"
    [("token", o.token.inspect), ("declaring_type", o.declaring.inspect),
      ("input", o.input.inspect), ("output", o.output.inspect),
      ("is_implicit", truth o.isImplicit), ("signature", Quoted.text o.signature)]
    true

/-- The operator or the host converter of a conversion, with what is spliced in around it; other
conversions have no parts to show. -/
def conversion : Conversion → String
  | .userDefined o unwraps wraps before after isImplicit =>
    fields "UserDefinedConversion"
      [("operator", Quoted.text o.signature), ("wraps_optional_input", truth unwraps),
        ("wraps_optional_output", truth wraps), ("before", splice before),
        ("after", splice after), ("is_implicit", truth isImplicit)]
      false
  | .host _ input output before after =>
    fields "HostConversion"
      [("input", input.inspect), ("output", output.inspect), ("before", splice before),
        ("after", splice after)]
      true
  | _ => ""

end TypeConversion.Inspection
