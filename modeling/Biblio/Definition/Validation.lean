import Biblio.Definition.Basic

/-!
# Results of validation

`Validation` is a list of problems, each with the property it concerns; `Validation.text` joins them
into one message.
-/

set_option autoImplicit false

namespace Biblio

open Json.Decoder (field record list text)

/-- One problem of a definition. -/
structure Problem where
  /-- The property that the problem concerns; empty if it is none in particular. -/
  property : String
  message : String
  deriving DecidableEq, Repr, Inhabited

/-- The problems that were found. -/
structure Validation where
  problems : List Problem := []
  deriving DecidableEq, Repr, Inhabited

namespace Problem

/-- The problem in one line. -/
def text (p : Problem) : String :=
  if p.property = "" then p.message else p.property ++ ": " ++ p.message

def decoder : Json.Decoder Problem :=
  record
    [ field "property" .required Json.Decoder.text (fun v p => { p with property := v }),
      field "message" .required Json.Decoder.text (fun v p => { p with message := v }) ]
    { property := "", message := "" }

def toJson (p : Problem) : Json :=
  Json.ofMembers [("property", .str p.property), ("message", .str p.message)]

end Problem

namespace Validation

/-- A result with one problem. -/
def problem (property message : String) : Validation := ⟨[⟨property, message⟩]⟩

/-- Whether nothing was found. -/
def isValid (v : Validation) : Bool := v.problems.isEmpty

/-- All problems in one line. -/
def text (v : Validation) : String := "; ".intercalate (v.problems.map Problem.text)

/-- The problems as a JSON array. -/
def problemsJson (v : Validation) : Json := .arr (v.problems.map Problem.toJson)

def decoder : Json.Decoder Validation :=
  record [field "errors" .defaulted (list Problem.decoder) (fun v r => { r with problems := v })] {}

def toJson (v : Validation) : Json := Json.ofMembers [("errors", v.problemsJson)]

end Validation
end Biblio
