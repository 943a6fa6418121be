import RowGate.Proofs.Text.Cut
import RowGate.Proofs.Text.Utf8
import RowGate.Text.FormData

/-! # Form-encoded text

How a list of pairs is form-encoded, and that it is read back: a byte is a character of its own or a
percent sign with two digits, so the bytes of a text come back one by one, and no encoded text holds
a mark that the pairs are cut at.
-/

namespace RowGate.Text

/-! ## Joined texts -/

/-- The pairs of two texts with an ampersand between them. -/
theorem formPairs_append (s t : List Char) :
    formPairs (s ++ '&' :: t) = formPairs s ++ formPairs t := by
  rw [formPairs, pieces_append, List.filter_append, List.map_append]
  rfl

/-! ## Encoding -/

/-- Letters, digits and four marks stand for themselves. -/
def isFormByte (b : UInt8) : Bool :=
  (Char.ofNat b.toNat).isAlphanum || b == 0x2A || b == 0x2D || b == 0x2E || b == 0x5F

/-- A hexadecimal digit, in upper case. -/
def hexDigit (n : Nat) : Char := (Nat.digitChar n).toUpper

def formByte (b : UInt8) : List Char :=
  if b = 0x20 then ['+']
  else if isFormByte b then [Char.ofNat b.toNat]
  else ['%', hexDigit (b.toNat / 16), hexDigit (b.toNat % 16)]

/-- One side of a pair. -/
def formComponent (s : List Char) : List Char := (utf8 s).flatMap formByte

def formPair (p : List Char × List Char) : List Char :=
  formComponent p.1 ++ '=' :: formComponent p.2

/-- The form-encoded text of a list of pairs. -/
def formText (ps : List (List Char × List Char)) : List Char :=
  ['&'].intercalate (ps.map formPair)

/-! ## Reading a component back -/

/-- What the reader makes of a character before it decodes percent signs. -/
def blankOfPlus (c : Char) : Char := if c = '+' then ' ' else c

theorem percentDecode_cons {b : UInt8} (h : b ≠ 0x25) (bs : List UInt8) :
    percentDecode (b :: bs) = b :: percentDecode bs := by
  match bs with
  | [] => rfl
  | [_] => rfl
  | _ :: _ :: _ => rw [percentDecode, if_neg h]

/-- Two hexadecimal digits behind a percent sign are a byte. -/
theorem percentDecode_percent {c d h l : UInt8} (hc : hexValue? c = some h)
    (hd : hexValue? d = some l) (bs : List UInt8) :
    percentDecode (0x25 :: c :: d :: bs) = (16 * h + l) :: percentDecode bs := by
  rw [percentDecode, if_pos rfl, hc, hd]

/-- A byte is read from its own character, or from its digits behind a percent sign. -/
def standsFor (b : UInt8) : List UInt8 → Bool
  | [c] => c = b && c ≠ 0x25
  | [c, d, e] => c = 0x25 && match hexValue? d, hexValue? e with
    | some h, some l => 16 * h + l = b
    | _, _ => false
  | _ => false

/-- What stands for a byte is decoded to it. -/
theorem percentDecode_of_standsFor {b : UInt8} {cs : List UInt8} (h : standsFor b cs = true)
    (bs : List UInt8) : percentDecode (cs ++ bs) = b :: percentDecode bs := by
  match cs with
  | [c] =>
    simp only [standsFor, Bool.and_eq_true, decide_eq_true_eq] at h
    obtain ⟨rfl, hc⟩ := h
    exact percentDecode_cons hc bs
  | [c, d, e] =>
    simp only [standsFor, Bool.and_eq_true, decide_eq_true_eq] at h
    obtain ⟨rfl, h⟩ := h
    split at h
    next hd he =>
      rw [decide_eq_true_eq] at h
      rw [← h]
      exact percentDecode_percent hd he bs
    next => cases h
  | [] | [_, _] | _ :: _ :: _ :: _ :: _ => cases h

/-- A byte is two hexadecimal digits. -/
theorem forall_byte {P : UInt8 → Prop}
    (h : ∀ m < 16, ∀ n < 16, P (UInt8.ofNat (16 * m + n))) (b : UInt8) : P b := by
  have hlt := b.toNat_lt
  have hb := h (b.toNat / 16) (by omega) (b.toNat % 16) (by omega)
  rwa [Nat.div_add_mod, UInt8.ofNat_toNat] at hb

/-- Every byte is read back. -/
theorem standsFor_formByte (b : UInt8) :
    standsFor b (utf8 ((formByte b).map blankOfPlus)) = true := by
  refine forall_byte (P := fun b ↦ standsFor b (utf8 ((formByte b).map blankOfPlus)) = true) ?_ b
  decide +kernel

/-- Bytes are decoded again, a blank from its plus sign. -/
theorem percentDecode_formBytes (bs : List UInt8) :
    percentDecode (utf8 ((bs.flatMap formByte).map blankOfPlus)) = bs := by
  induction bs with
  | nil => rfl
  | cons b bs ih =>
    rw [List.flatMap_cons, List.map_append, utf8, List.flatMap_append]
    exact (percentDecode_of_standsFor (standsFor_formByte b) _).trans (congrArg _ ih)

/-- A component is decoded to the text that it was made of. -/
theorem decodeComponent_formComponent (s : List Char) : decodeComponent (formComponent s) = s := by
  have hbytes : percentDecode (utf8 ((formComponent s).map blankOfPlus)) = utf8 s :=
    percentDecode_formBytes (utf8 s)
  exact (congrArg decodeUtf8 hbytes).trans (decodeUtf8_utf8 s)

/-! ## Reading pairs back -/

/-- The marks that pairs are cut at stand for no byte. -/
theorem formByte_uncut (b : UInt8) :
    (formByte b).all (fun c ↦ ['&', '='].all (· != c)) = true := by
  refine forall_byte (P := fun b ↦ (formByte b).all (fun c ↦ ['&', '='].all (· != c)) = true) ?_ b
  decide +kernel

/-- No component holds a mark that would cut it. -/
theorem notMem_formComponent {d : Char} (hd : d ∈ ['&', '=']) (s : List Char) :
    d ∉ formComponent s := by
  rw [formComponent, List.mem_flatMap]
  rintro ⟨b, -, hb⟩
  have hne : (d != d) = true :=
    List.all_eq_true.mp (List.all_eq_true.mp (formByte_uncut b) d hb) d hd
  exact bne_iff_ne.mp hne rfl

/-- A pair is cut at its first mark of equality, and both sides are decoded. -/
theorem decodePair_formPair (p : List Char × List Char) : decodePair (formPair p) = p := by
  have hcut : cutFirst '=' (formPair p) = some (formComponent p.1, formComponent p.2) :=
    cutFirst_cons (notMem_formComponent (by decide) p.1) _
  simp only [decodePair, hcut, decodeComponent_formComponent]

theorem ampersand_notMem_formPair (p : List Char × List Char) : '&' ∉ formPair p := by
  rw [formPair, List.mem_append, List.mem_cons]
  rintro (h | h | h)
  · exact notMem_formComponent (by decide) p.1 h
  · exact absurd h (by decide)
  · exact notMem_formComponent (by decide) p.2 h

/-- The pairs of a form-encoded text are the pairs that it was made of. -/
theorem formPairs_formText (ps : List (List Char × List Char)) : formPairs (formText ps) = ps := by
  cases ps with
  | nil => rfl
  | cons p ps =>
    have hcut : pieces '&' (formText (p :: ps)) = (p :: ps).map formPair := by
      refine pieces_intercalate (List.cons_ne_nil _ _) fun s hs ↦ ?_
      obtain ⟨q, -, rfl⟩ := List.mem_map.mp hs
      exact ampersand_notMem_formPair q
    have hfull : ((p :: ps).map formPair).filter (fun s ↦ !s.isEmpty) = (p :: ps).map formPair := by
      refine List.filter_eq_self.mpr fun s hs ↦ ?_
      obtain ⟨q, -, rfl⟩ := List.mem_map.mp hs
      simp [formPair]
    rw [formPairs, hcut, hfull, List.map_map]
    exact List.map_id'' decodePair_formPair _

end RowGate.Text
