import Mathlib.Data.UInt

/-!
# Codes that say where they end

A prefix code decodes what it encodes whatever lies behind it, and decodes nothing else.  A header
of fixed length is one (`PrefixCode.fixed`), and so is a header followed by as many octets as it
announces (`PrefixCode.counted`).
-/

set_option autoImplicit false

namespace Osdlp.Library

/-- An encoder and a decoder that leaves what it does not consume. -/
structure PrefixCode (α : Type) where
  encode : α → List UInt8
  decode : List UInt8 → Option (α × List UInt8)
  decode_encode : ∀ a rest, decode (encode a ++ rest) = some (a, rest)
  encode_decode : ∀ {buf a rest}, decode buf = some (a, rest) → buf = encode a ++ rest

variable {α : Type}

/-- A header with a body of the length that it announces. -/
structure WithBody (count : α → ℕ) where
  head : α
  body : List UInt8
  length_body : body.length = count head

namespace PrefixCode

/-- A code whose words all have `n` octets. -/
def fixed (n : ℕ) (encode : α → List UInt8) (decode : List UInt8 → α)
    (hlength : ∀ a, (encode a).length = n) (hdecode : ∀ a, decode (encode a) = a)
    (hencode : ∀ buf, buf.length = n → encode (decode buf) = buf) : PrefixCode α where
  encode := encode
  decode buf := if n ≤ buf.length then some (decode (buf.take n), buf.drop n) else none
  decode_encode a rest := by
    rw [if_pos (by rw [List.length_append, hlength]; omega), List.take_left' (hlength a),
      List.drop_left' (hlength a), hdecode]
  encode_decode {buf a rest} h := by
    split_ifs at h with hn
    obtain ⟨rfl, rfl⟩ := Prod.mk.inj (Option.some.inj h)
    rw [hencode _ (List.length_take_of_le hn), List.take_append_drop]

/-- A header and, behind it, its body. -/
def counted (c : PrefixCode α) (count : α → ℕ) : PrefixCode (WithBody count) where
  encode p := c.encode p.head ++ p.body
  decode buf := do
    let (head, rest) ← c.decode buf
    if h : count head ≤ rest.length then
      some (⟨head, rest.take (count head), List.length_take_of_le h⟩, rest.drop (count head))
    else none
  decode_encode p rest := by
    obtain ⟨head, body, hbody⟩ := p
    have hcount : count head ≤ (body ++ rest).length := by
      rw [List.length_append]
      omega
    simp only [List.append_assoc, c.decode_encode, Option.bind_eq_bind, Option.bind_some,
      dif_pos hcount, List.take_left' hbody, List.drop_left' hbody]
  encode_decode {buf p rest} h := by
    cases hhead : c.decode buf with
    | none => simp [hhead] at h
    | some read =>
      obtain ⟨head, behind⟩ := read
      simp only [hhead, Option.bind_eq_bind, Option.bind_some] at h
      split_ifs at h with hcount
      obtain ⟨rfl, rfl⟩ := Prod.mk.inj (Option.some.inj h)
      rw [c.encode_decode hhead, List.append_assoc, List.take_append_drop]

/-- A code with a body of the announced length decodes exactly if both are there. -/
theorem isSome_decode_counted (c : PrefixCode α) (count : α → ℕ) {buf : List UInt8} {a : α}
    {rest : List UInt8} (h : c.decode buf = some (a, rest)) :
    ((c.counted count).decode buf).isSome ↔ count a ≤ rest.length := by
  show (((c.decode buf).bind _ : Option _)).isSome ↔ _
  rw [h, Option.bind_some]
  dsimp only
  split_ifs with hcount
  · simp [hcount]
  · simp [hcount]

end PrefixCode

end Osdlp.Library
