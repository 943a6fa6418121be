import RowGate.Proofs.Sql.Reference

/-! # Paths read back

The server reads the text of a path as a quoted identifier and then, for each step, an accessor and
a key: a string literal for a member and a decimal integer for a position. What it reads are the
root and the steps of the path, so that no two paths have one text.
-/

namespace RowGate

open Sql (Token textTokens)

namespace Sql

/-- The accessor that an operator is. -/
def Token.accessor? : Token → Option Accessor
  | lexeme .operator ['-', '>'] => some .document
  | lexeme .operator ['-', '>', '>'] => some .text
  | _ => none

/-- The key that a token is: a string names a member, a decimal integer is a position. -/
def Token.key? : Token → Option PathKey
  | quoted .literal s => some (.name (String.ofList s))
  | lexeme .number s => (Decimal.readNat? s).map .index
  | _ => none

/-- What a token stands for. -/
def Token.content : Token → String
  | lexeme _ s | quoted _ s => String.ofList s
  | mark c => String.ofList [c]

/-- Steps of a path, each of them an accessor and a key. -/
def steps? : List Token → Option (List PathStep)
  | [] => some []
  | [_] => none
  | op :: tok :: ts => do
    let accessor ← op.accessor?
    let key ← tok.key?
    let steps ← steps? ts
    return ⟨accessor, key⟩ :: steps

/-- The root and the steps of a path that is all of a text. -/
def path? (sql : String) : Option (String × List PathStep) :=
  match tokens sql with
  | some (.quoted .name root :: ts) => (steps? ts).map fun steps ↦ (String.ofList root, steps)
  | _ => none

/-- The last accessor among some tokens. -/
def lastAccessor? (ts : List Token) : Option Accessor := (ts.filterMap Token.accessor?).getLast?

end Sql

/-! ## The tokens of a path -/

def Accessor.token : Accessor → Token
  | document => .lexeme .operator ['-', '>']
  | text => .lexeme .operator ['-', '>', '>']

def PathKey.token : PathKey → Token
  | name s => .quoted .literal s.toList
  | index n => .lexeme .number (toString n).toList

/-- A step is an accessor and a key. -/
def PathStep.tokens (step : PathStep) : List Token := [step.accessor.token, step.key.token]

@[simp] theorem Accessor.accessor?_token (a : Accessor) : a.token.accessor? = some a := by
  cases a <;> rfl

namespace PathKey

variable (k : PathKey)

@[simp] theorem key?_token : k.token.key? = some k := by
  cases k with
  | name s => exact congrArg (fun s ↦ some (name s)) String.ofList_toList
  | index n => exact congrArg (Option.map index) (Decimal.readNat?_toString n)

@[simp] theorem accessor?_token : k.token.accessor? = none := by
  cases k <;> rfl

@[simp] theorem content_token : k.token.content = k.display := by
  cases k <;> exact String.ofList_toList

end PathKey

namespace PathStep

variable (step : PathStep)

/-- A step binds nothing. -/
theorem values_pieces : Fragment.values [.fixed step.accessor.sql, step.key.piece] = [] := by
  obtain ⟨accessor, _ | _⟩ := step <;> rfl

/-- A step is read as its accessor and its key. -/
theorem tokens_pieces :
    Fragment.tokens 0 [.fixed step.accessor.sql, step.key.piece] = step.tokens := by
  have haccessor (a : Accessor) : textTokens a.sql.toList = [a.token] := by
    cases a <;> decide
  have hkey (k : PathKey) : k.piece.tokens 1 = [k.token] := by
    cases k <;> rfl
  change textTokens step.accessor.sql.toList ++ (step.key.piece.tokens 1 ++ []) = step.tokens
  rw [haccessor, hkey]
  rfl

end PathStep

namespace ColumnPath

variable (p : ColumnPath)

/-- The steps of a path are read one after the other. -/
theorem tokens_steps (steps : List PathStep) :
    Fragment.tokens 0 (steps.flatMap fun step ↦ [.fixed step.accessor.sql, step.key.piece]) =
      steps.flatMap PathStep.tokens := by
  induction steps with
  | nil => rfl
  | cons step steps ih =>
    rw [List.flatMap_cons, Fragment.tokens_append, step.tokens_pieces, step.values_pieces,
      List.flatMap_cons]
    exact congrArg _ ih

/-- A path is read as its quoted root and its steps. -/
theorem tokens_fragment : p.fragment.tokens 0 =
    .quoted .name p.column.name.toList :: p.steps.flatMap PathStep.tokens :=
  congrArg (List.cons _) (tokens_steps p.steps)

/-- The steps are read from their tokens. -/
theorem steps?_tokens (steps : List PathStep) :
    Sql.steps? (steps.flatMap PathStep.tokens) = some steps := by
  induction steps with
  | nil => rfl
  | cons step steps ih => simp [PathStep.tokens, Sql.steps?, ih]

/-- The accessors among the tokens of a path are those of its steps. -/
theorem lastAccessor?_tokens :
    Sql.lastAccessor? (p.fragment.tokens 0) = p.steps.getLast?.map PathStep.accessor := by
  have hsteps : (p.steps.flatMap PathStep.tokens).filterMap Token.accessor? =
      p.steps.map PathStep.accessor := by
    induction p.steps with
    | nil => rfl
    | cons step steps ih => simp [PathStep.tokens, ih]
  rw [Sql.lastAccessor?, tokens_fragment, List.filterMap_cons_none rfl, hsteps, List.getLast?_map]

/-- The last token of a path is its last key, or else its root. -/
theorem content_getLast?_tokens :
    (p.fragment.tokens 0).getLast?.map Token.content = some p.outputName := by
  rw [tokens_fragment, outputName]
  cases hlast : p.steps.getLast? with
  | none =>
    rw [List.getLast?_eq_none_iff.mp hlast]
    exact congrArg some String.ofList_toList
  | some step =>
    obtain ⟨steps, hsteps⟩ := List.getLast?_eq_some_iff.mp hlast
    rw [hsteps, List.flatMap_append, List.flatMap_singleton, PathStep.tokens, ← List.cons_append,
      List.getLast?_append]
    exact congrArg some step.key.content_token

end ColumnPath

/-- A path that is read has the tokens of its root and its steps. -/
theorem tokens_text_of_readPath {raw : String} {p : ColumnPath} (h : readPath raw = .ok p) :
    Sql.tokens p.fragment.text = some (p.fragment.tokens 0) := by
  let V : Vocabulary := { names := [rootName raw], literals := keyNames raw, typed := by simp }
  have hV : V.HasReference raw := ⟨List.mem_cons_self, fun _ hs ↦ hs⟩
  exact (fits_path h hV).tokens_textFrom 0

/-- A path is read back from its text. -/
theorem path?_text {raw : String} {p : ColumnPath} (h : readPath raw = .ok p) :
    Sql.path? p.fragment.text = some (p.column.name, p.steps) := by
  rw [Sql.path?, tokens_text_of_readPath h, p.tokens_fragment]
  simp only [ColumnPath.steps?_tokens, Option.map_some, String.ofList_toList]

/-- The text of a path that is read is, as a whole, a quoted identifier and steps, and these are the
root and the steps of the path. Another path has another text. Whether the path leads into a
document, how its last step leaves the result and which name its column has can be told from the
last tokens of the text. -/
theorem path_of_text {raw : String} {p : ColumnPath}
    (h : ColumnPath.ofString raw = .ok p) :
    Sql.path? p.fragment.text = some (p.column.name, p.steps) ∧
    (∀ raw' p', ColumnPath.ofString raw' = .ok p' → p'.fragment.text = p.fragment.text → p' = p) ∧
    ∃ ts, Sql.tokens p.fragment.text = some ts ∧
      ts.getLast?.map Token.content = some p.outputName ∧
      p.isJson = (Sql.lastAccessor? ts).isSome ∧
      (p.extractsText = true ↔ Sql.lastAccessor? ts = some .text) ∧
      (p.extractsJson = true ↔ Sql.lastAccessor? ts = some .document) := by
  have hread : readPath raw = .ok p := by rw [readPath, h]
  refine ⟨path?_text hread, fun raw' p' h' heq ↦ ?_, _, tokens_text_of_readPath hread,
    p.content_getLast?_tokens, ?_, ?_, ?_⟩
  · have hread' : readPath raw' = .ok p' := by rw [readPath, h']
    have hboth := path?_text hread'
    rw [heq, path?_text hread] at hboth
    obtain ⟨⟨root, sound⟩, steps⟩ := p
    obtain ⟨⟨root', sound'⟩, steps'⟩ := p'
    cases hboth
    rfl
  · rw [p.lastAccessor?_tokens, ColumnPath.isJson]
    cases p.steps <;> simp
  · rw [p.lastAccessor?_tokens, ColumnPath.extractsText]
    cases p.steps.getLast? <;> simp
  · rw [p.lastAccessor?_tokens, ColumnPath.extractsJson]
    cases p.steps.getLast? <;> simp

/-- Quotes of both kinds, an arrow that is none, and a position. -/
theorem path_of_text_quoted :
    ∃ p, ColumnPath.ofString " we\"ird ->it's>->007->>\"4294967296" = .ok p ∧
      p.fragment.text = "\"we\"\"ird\"->'it''s>'->7->>'\"4294967296'" ∧
      Sql.path? p.fragment.text = some ("we\"ird",
        [⟨.document, .name "it's>"⟩, ⟨.document, .index 7⟩, ⟨.text, .name "\"4294967296"⟩]) := by
  have hpath : (ColumnPath.ofString " we\"ird ->it's>->007->>\"4294967296").toOption.map
      (fun p ↦ (p.fragment.text, p.column.name, p.steps)) =
      some ("\"we\"\"ird\"->'it''s>'->7->>'\"4294967296'", "we\"ird",
        [⟨.document, .name "it's>"⟩, ⟨.document, .index 7⟩, ⟨.text, .name "\"4294967296"⟩]) := by
    decide +kernel
  cases h : ColumnPath.ofString " we\"ird ->it's>->007->>\"4294967296" with
  | error e =>
    rw [h] at hpath
    cases hpath
  | ok p =>
    rw [h] at hpath
    obtain ⟨htext, hname⟩ := Prod.ext_iff.mp (Option.some.inj hpath)
    refine ⟨p, rfl, htext, ?_⟩
    rw [(path_of_text h).1]
    exact congrArg some hname

end RowGate
