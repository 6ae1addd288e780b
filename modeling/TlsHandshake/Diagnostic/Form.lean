import TlsHandshake.Diagnostic.Quoted

set_option autoImplicit false

/-! # The form of diagnostic texts

A diagnostic text shows the structure of a value on one line: names with their fields in braces or
arguments in parentheses, lists in brackets, quoted text. A record may keep fields to itself; two
points stand for them. -/

namespace TlsHandshake

/-- A value as a diagnostic text shows it. -/
inductive Form where
  /-- A bare word. -/
  | word (text : String)
  /-- A quoted text. -/
  | text (text : String)
  | list (items : List Form)
  /-- A name with one argument. -/
  | tagged (name : String) (argument : Form)
  /-- A name with named fields, all of them shown or not. -/
  | record (name : String) (fields : List (String × Form)) (complete : Bool)

namespace Form

def ofBool (b : Bool) : Form := .word (if b then "true" else "false")

def ofNat (n : Nat) : Form := .word (toString n)

def ofOption : Option Form → Form
  | none => .word "None"
  | some f => .tagged "Some" f

/-! ## Rendering -/

/-- The names and values of a record, each pair as one item. -/
def renderFields (fields : List String) (complete : Bool) : String :=
  let items := if complete then fields else fields ++ [".."]
  if items.isEmpty then "" else " \x7b " ++ ", ".intercalate items ++ " \x7d"

mutual

/-- The text of a form. -/
def render : Form → String
  | word s => s
  | text s => Quoted.quote s
  | list items => "[" ++ ", ".intercalate (renderAll items) ++ "]"
  | tagged name argument => name ++ "(" ++ argument.render ++ ")"
  | record name fields complete => name ++ renderFields (renderNamed fields) complete

/-- The texts of several forms. -/
def renderAll : List Form → List String
  | [] => []
  | f :: fs => f.render :: renderAll fs

/-- The texts of several fields. -/
def renderNamed : List (String × Form) → List String
  | [] => []
  | (name, f) :: fs => (name ++ ": " ++ f.render) :: renderNamed fs

end

end Form

end TlsHandshake
