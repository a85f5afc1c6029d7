import IdentityApi.Text.Basic
import IdentityApi.Text.Utf8

/-! # Percent-encoding

`encode keep` leaves the characters of `keep` as they are and writes every octet of the others as
`%` and two uppercase digits. `decode` reads such triples as octets and everything else as itself.
-/
namespace IdentityApi.Percent

def encodeOctet (b : UInt8) : List Char :=
  ['%', Hex.upperDigit (b.toNat / 16), Hex.upperDigit (b.toNat % 16)]

def encodeChar (keep : Char → Bool) (c : Char) : List Char :=
  if keep c then [c] else (Utf8.encodeChar c).flatMap encodeOctet

def encode (keep : Char → Bool) (s : List Char) : List Char := s.flatMap (encodeChar keep)

/-- A `%` that two digits do not follow stands for itself. -/
def decode : List Char → Octets
  | [] => []
  | [a] => Utf8.encodeChar a
  | [a, b] => Utf8.encodeChar a ++ Utf8.encodeChar b
  | a :: b :: c :: r =>
    match a == '%', Hex.value? b, Hex.value? c with
    | true, some x, some y => .ofNat (x * 16 + y) :: decode r
    | _, _, _ => Utf8.encodeChar a ++ decode (b :: c :: r)

/-- Letters, digits and `-` `_` `.` `~`. -/
def isUnreserved (c : Char) : Bool :=
  c.isAlphanum || c == '-' || c == '_' || c == '.' || c == '~'

/-- A value for a path segment or a query: every octet outside the unreserved ones is encoded. -/
def encodeValue (s : String) : String := .ofList (encode isUnreserved s.toList)

@[simp] theorem encode_cons (keep : Char → Bool) (c : Char) (s : List Char) :
    encode keep (c :: s) = encodeChar keep c ++ encode keep s := List.flatMap_cons

/-- A triple reads as its octet. -/
theorem decode_encodeOctet (b : UInt8) (r : List Char) :
    decode (encodeOctet b ++ r) = b :: decode r := by
  have hb := b.toNat_lt
  have hhi := Hex.value?_upperDigit (b.toNat / 16) (by omega)
  have hlo := Hex.value?_upperDigit (b.toNat % 16) (by omega)
  have he : b.toNat / 16 * 16 + b.toNat % 16 = b.toNat := by omega
  simp [encodeOctet, decode, hhi, hlo, he]

theorem decode_encodeOctets (s : Octets) (r : List Char) :
    decode (s.flatMap encodeOctet ++ r) = s ++ decode r := by
  induction s with
  | nil => rfl
  | cons b s ih =>
    rw [List.flatMap_cons, List.append_assoc, decode_encodeOctet, ih, List.cons_append]

/-- Any other character reads as itself. -/
theorem decode_cons_of_ne {c : Char} (h : c ≠ '%') (r : List Char) :
    decode (c :: r) = Utf8.encodeChar c ++ decode r := by
  have hne : (c == '%') = false := beq_eq_false_iff_ne.mpr h
  match r with
  | [] => simp [decode]
  | [_] => simp [decode]
  | _ :: _ :: _ => simp [decode, hne]

theorem decode_encodeChar {keep : Char → Bool} (h : keep '%' = false) (c : Char) (r : List Char) :
    decode (encodeChar keep c ++ r) = Utf8.encodeChar c ++ decode r := by
  unfold encodeChar
  by_cases hc : keep c = true
  · have hne : c ≠ '%' := by
      intro he
      rw [he, h] at hc
      cases hc
    rw [if_pos hc]
    exact decode_cons_of_ne hne r
  · rw [if_neg hc]
    exact decode_encodeOctets (Utf8.encodeChar c) r

/-- Where `%` itself is encoded, decoding gives back the octets of the text. -/
theorem decode_encode {keep : Char → Bool} (h : keep '%' = false) (s : List Char) :
    decode (encode keep s) = Utf8.encode s := by
  induction s with
  | nil => rfl
  | cons c s ih =>
    rw [encode_cons, decode_encodeChar h, ih]
    rfl

end IdentityApi.Percent
