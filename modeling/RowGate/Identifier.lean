import RowGate.Text.Escape

/-! # SQL identifiers -/

namespace RowGate

/-- Why a text is no identifier, or no key of a path. -/
inductive NameFault where
  | empty
  | emptyKey
  | tooLong (name : String)
  | control (name : String)
  | described (text : String)
deriving DecidableEq, Repr

/-- The greatest length of an identifier, in bytes. -/
def maxNameBytes : Nat := 63

def NameFault.message : NameFault → String
  | empty => "Empty identifier"
  | emptyKey => "Empty JSON path segment"
  | tooLong name => name ++ " (longer than " ++ toString maxNameBytes ++ " bytes)"
  | control name => String.ofList (Text.escape name.toList)
  | described text => text

def hasControl (s : String) : Bool := s.toList.any Text.isControl

/-- What keeps a text from being an identifier. -/
def nameFault? (name : String) : Option NameFault :=
  if name = "" then some .empty
  else if maxNameBytes < name.utf8ByteSize then some (.tooLong name)
  else if hasControl name then some (.control name)
  else none

/-- A name that may be written into SQL text: not empty, not longer than the server reads, and
without control characters. -/
structure Identifier where
  name : String
  sound : nameFault? name = none
deriving DecidableEq, Repr

namespace Identifier

def ofString (name : String) : Except NameFault Identifier :=
  match h : nameFault? name with
  | none => .ok ⟨name, h⟩
  | some fault => .error fault

theorem ofString_eq_ok_iff {s : String} {i : Identifier} : ofString s = .ok i ↔ i.name = s := by
  constructor
  · intro h
    unfold ofString at h
    split at h
    · cases h; rfl
    · cases h
  · rintro rfl
    unfold ofString
    split
    · rfl
    · rename_i h
      rw [i.sound] at h
      cases h

theorem ofString_eq_error_iff {s : String} {f : NameFault} :
    ofString s = .error f ↔ nameFault? s = some f := by
  unfold ofString
  split <;> simp_all

/-- In double quotes, with quotes inside written twice. -/
def quoted (i : Identifier) : String :=
  "\"" ++ String.ofList (i.name.toList.flatMap fun c => if c = '"' then ['"', '"'] else [c]) ++ "\""

end Identifier

end RowGate
