import LocationRelay.Text.Quoted
import LocationRelay.Text.Split

/-! # Names

User names and device ids become words of dotted topics, so a name has something besides blanks in it
and none of the three characters that a topic pattern gives a meaning to. Everything else is allowed
and kept as written, blanks at the ends included.
-/
namespace LocationRelay

inductive NameError where
  | empty
  | invalidSegment (text : String)
  | invalidFormat
  | unknownAlgorithm (name : String)
deriving DecidableEq

def NameError.message : NameError → String
  | .empty => "empty value"
  | .invalidSegment text =>
    s!"invalid segment {Text.quoted text}: must not contain '.', '*' or '#'"
  | .invalidFormat => "invalid format: expected location.<username>.<deviceId>"
  | .unknownAlgorithm name => s!"unknown signing algorithm: {name}"

def isTopicMark (c : Char) : Bool := c == '.' || c == '*' || c == '#'

def IsName (s : String) : Prop := ¬ Text.Blank s ∧ ∀ c ∈ s.toList, isTopicMark c = false

instance (s : String) : Decidable (IsName s) := @instDecidableAnd _ _ _ (List.decidableBAll _ _)

structure Name where
  text : String
  isName : IsName text
deriving DecidableEq

/-- Reads a name as it stands; a blank text is refused before its characters are looked at. -/
def Name.of? (s : String) : Except NameError Name :=
  if Text.Blank s then .error .empty
  else if h : IsName s then .ok ⟨s, h⟩
  else .error (.invalidSegment s)

theorem Name.of?_text (n : Name) : Name.of? n.text = .ok n := by
  unfold Name.of?
  rw [if_neg n.isName.1, dif_pos n.isName]

theorem Name.text_of?_eq_ok {s : String} {n : Name} (h : Name.of? s = .ok n) : n.text = s := by
  unfold Name.of? at h
  split at h
  · cases h
  · split at h
    · cases h
      rfl
    · cases h

end LocationRelay
