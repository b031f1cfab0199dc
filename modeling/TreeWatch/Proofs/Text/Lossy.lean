import TreeWatch.Proofs.Path.Child
import TreeWatch.Text.Lossy

/-!
# What is legible of a name

`Text.repair` copies the characters that its bytes spell and puts the replacement character where
a piece of them spells none (`Text.Repairs`). What comes out is UTF-8
(`Text.Repairs.isValidUTF8`), it is what went in just if that was UTF-8
(`Spelling.legible_ofBytes_eq_self_iff`), and what is legible of a name can stand in a directory
like the name itself (`Spelling.isName_legible`).
-/

namespace TreeWatch

namespace Text

/-- Characters and broken pieces in a row, and the same row with each piece replaced. -/
inductive Repairs : List UInt8 → List UInt8 → Prop where
  | nil : Repairs [] []
  | char (c : Char) {bs out : List UInt8} : Repairs bs out →
      Repairs (String.utf8EncodeChar c ++ bs) (String.utf8EncodeChar c ++ out)
  | broken {piece bs out : List UInt8} (ne_nil : piece ≠ [])
      (fails : (piece ++ bs).toByteArray.utf8DecodeChar? 0 = none) : Repairs bs out →
      Repairs (piece ++ bs) (replacement ++ out)

theorem repairFrom_eq (n : Nat) (bs : List UInt8) : repairFrom n bs = repair (bs.drop n) := by
  induction bs generalizing n with
  | nil => cases n <;> rfl
  | cons b bs ih =>
      cases n with
      | zero => rfl
      | succ n => exact ih n

theorem repair_encode_append (c : Char) (bs : List UInt8) :
    repair (String.utf8EncodeChar c ++ bs) = String.utf8EncodeChar c ++ repair bs := by
  have hdecoded : (String.utf8EncodeChar c ++ bs).toByteArray.utf8DecodeChar? 0 = some c := by
    rw [List.toByteArray_append, ByteArray.utf8DecodeChar?_utf8EncodeChar_append]
  have hlength := String.length_utf8EncodeChar c
  have hpos := c.utf8Size_pos
  cases hc : String.utf8EncodeChar c with
  | nil =>
      rw [hc, List.length_nil] at hlength
      omega
  | cons b tail =>
      rw [hc, List.length_cons] at hlength
      rw [hc, List.cons_append] at hdecoded
      have hskip : c.utf8Size - 1 = tail.length := by omega
      rw [List.cons_append, repair, repairFrom]
      simp only [hdecoded]
      rw [repairFrom_eq, hskip, List.drop_left, hc]

/-- Where no character starts, some of the bytes are replaced. -/
theorem exists_repair_eq_replacement_append {b : UInt8} {bs : List UInt8}
    (h : (b :: bs).toByteArray.utf8DecodeChar? 0 = none) :
    ∃ piece rest, piece ≠ [] ∧ b :: bs = piece ++ rest ∧
      repair (b :: bs) = replacement ++ repair rest := by
  refine ⟨b :: bs.take (brokenTail b bs), bs.drop (brokenTail b bs), by simp, ?_, ?_⟩
  · rw [List.cons_append, List.take_append_drop]
  · rw [repair, repairFrom]
    simp only [h]
    rw [repairFrom_eq]

theorem exists_eq_encode_append {bs : List UInt8} {c : Char}
    (h : bs.toByteArray.utf8DecodeChar? 0 = some c) :
    ∃ rest, bs = String.utf8EncodeChar c ++ rest := by
  obtain ⟨rest, hrest⟩ := ByteArray.exists_of_utf8DecodeChar?_eq_some h
  have hlist : rest.data.toList.toByteArray = rest := ByteArray.ext List.data_toByteArray
  refine ⟨rest.data.toList, List.toByteArray_inj.1 ?_⟩
  rw [List.toByteArray_append, hlist, hrest]

theorem repairs_repair (bs : List UInt8) : Repairs bs (repair bs) := by
  induction hn : bs.length using Nat.strongRecOn generalizing bs with
  | ind n ih =>
      subst hn
      cases bs with
      | nil => exact .nil
      | cons b bs =>
          cases hc : (b :: bs).toByteArray.utf8DecodeChar? 0 with
          | some c =>
              obtain ⟨rest, hrest⟩ := exists_eq_encode_append hc
              have hlength := congrArg List.length hrest
              have hpos := c.utf8Size_pos
              rw [List.length_append, String.length_utf8EncodeChar] at hlength
              rw [hrest, repair_encode_append]
              exact .char c (ih _ (by omega) rest rfl)
          | none =>
              obtain ⟨piece, rest, hpiece, hrest, hrepair⟩ := exists_repair_eq_replacement_append hc
              have hlength := congrArg List.length hrest
              have hpos := List.length_pos_iff.2 hpiece
              rw [List.length_append] at hlength
              rw [hrepair, hrest]
              rw [hrest] at hc
              exact .broken hpiece hc (ih _ (by omega) rest rfl)

theorem Repairs.eq_or_mem {bs out : List UInt8} (h : Repairs bs out) : out = bs ∨ 0xEF ∈ out := by
  induction h with
  | nil => exact .inl rfl
  | char c h ih => exact ih.imp (congrArg _) (List.mem_append_right _)
  | broken _ _ h ih => exact .inr (List.mem_append_left _ (by decide))

theorem Repairs.mem {bs out : List UInt8} (h : Repairs bs out) {b : UInt8} (hb : b ∈ out) :
    b ∈ bs ∨ b ∈ replacement := by
  induction h with
  | nil => cases hb
  | char c h ih =>
      rcases List.mem_append.1 hb with hb | hb
      · exact .inl (List.mem_append_left _ hb)
      · exact (ih hb).imp_left (List.mem_append_right _)
  | broken _ _ h ih =>
      rcases List.mem_append.1 hb with hb | hb
      · exact .inr hb
      · exact (ih hb).imp_left (List.mem_append_right _)

theorem toByteArray_encode_append (c : Char) (bs : List UInt8) :
    (String.utf8EncodeChar c ++ bs).toByteArray = [c].utf8Encode ++ bs.toByteArray := by
  rw [List.toByteArray_append, List.utf8Encode_singleton]

theorem Repairs.isValidUTF8 {bs out : List UInt8} (h : Repairs bs out) :
    out.toByteArray.IsValidUTF8 := by
  induction h with
  | nil => exact ByteArray.isValidUTF8_empty
  | char c h ih =>
      rw [toByteArray_encode_append]
      exact ByteArray.isValidUTF8_utf8Encode_singleton_append_iff.2 ih
  | broken _ _ h ih =>
      have hreplacement : replacement = String.utf8EncodeChar '\uFFFD' := by decide
      rw [hreplacement, toByteArray_encode_append]
      exact ByteArray.isValidUTF8_utf8Encode_singleton_append_iff.2 ih

theorem repair_eq_self_iff {bs : List UInt8} :
    repair bs = bs ↔ bs.toByteArray.IsValidUTF8 := by
  constructor
  · intro h
    exact h ▸ (repairs_repair bs).isValidUTF8
  · rintro ⟨cs, hcs⟩
    have hbs : bs = cs.flatMap String.utf8EncodeChar := List.toByteArray_inj.1 hcs
    subst hbs
    clear hcs
    induction cs with
    | nil => rfl
    | cons c cs ih => rw [List.flatMap_cons, repair_encode_append, ih]

/-- A character of two bytes, two bytes of one of four, a letter, and a byte that starts nothing. -/
example : repair [0xC3, 0xA9, 0xF0, 0x9F, 0x66, 0xFF]
    = [0xC3, 0xA9, 0xEF, 0xBF, 0xBD, 0x66, 0xEF, 0xBF, 0xBD] := by
  decide

/-! ## Names -/

theorem toNat_ofUInt8 (b : UInt8) : (Char.ofUInt8 b).toNat = b.toNat := rfl

theorem ofUInt8_injective {a b : UInt8} (h : Char.ofUInt8 a = Char.ofUInt8 b) : a = b :=
  UInt8.toNat_inj.1 (congrArg Char.toNat h)

theorem eq_ofUInt8_of_byteOf {c : Char} {b : UInt8} (hb : b < 0x80) (h : byteOf c = b) :
    c = Char.ofUInt8 b := by
  have hmin : (byteOf c).toNat = min c.toNat 0xFF :=
    Nat.mod_eq_of_lt (by omega)
  have hlt : b.toNat < 0x80 := hb
  rw [h] at hmin
  have hc : c.toNat = (Char.ofUInt8 b).toNat := by
    rw [toNat_ofUInt8]
    omega
  exact Char.toNat_inj.1 hc

theorem byteOf_ofUInt8 (b : UInt8) : byteOf (Char.ofUInt8 b) = b := by
  have hlt := b.toNat_lt
  rw [byteOf, toNat_ofUInt8, Nat.min_eq_left (by omega), UInt8.ofNat_toNat]

theorem toBytes_ofBytes (bs : List UInt8) : toBytes (ofBytes bs) = bs := by
  rw [toBytes, ofBytes, String.toList_ofList, List.map_map]
  exact (List.map_congr_left fun b _ => byteOf_ofUInt8 b).trans (List.map_id bs)

theorem ofBytes_inj {as bs : List UInt8} : ofBytes as = ofBytes bs ↔ as = bs :=
  ⟨fun h => by rw [← toBytes_ofBytes as, h, toBytes_ofBytes], congrArg ofBytes⟩

theorem eq_of_map_byteOf {cs : List Char} {bs : List UInt8} (hbs : ∀ b ∈ bs, b < 0x80)
    (h : cs.map byteOf = bs) : cs = bs.map Char.ofUInt8 := by
  subst h
  have hspelled : ∀ c ∈ cs, id c = (Char.ofUInt8 ∘ byteOf) c := fun c hc =>
    eq_ofUInt8_of_byteOf (hbs _ (List.mem_map_of_mem hc)) rfl
  rw [List.map_map, ← List.map_congr_left hspelled, List.map_id]

/-- Where an ASCII text is what is legible of a name, it is the name. -/
theorem toList_eq_of_legible {name : String} (bs : List UInt8) (hbs : ∀ b ∈ bs, b < 0x80)
    (h : (Spelling.bytes.legible name).toList = bs.map Char.ofUInt8) :
    name.toList = bs.map Char.ofUInt8 := by
  rw [Spelling.legible, ofBytes, String.toList_ofList] at h
  have hrepaired := (List.map_inj_right fun _ _ => ofUInt8_injective).1 h
  rcases (repairs_repair (toBytes name)).eq_or_mem with hcopied | hreplaced
  · exact eq_of_map_byteOf hbs (hcopied.symm.trans hrepaired)
  · exact absurd (hbs _ (hrepaired ▸ hreplaced)) (by decide)

end Text

@[simp] theorem Spelling.legible_text (name : String) : Spelling.text.legible name = name := rfl

/-- All of a name of bytes is legible just if it is UTF-8. -/
theorem Spelling.legible_ofBytes_eq_self_iff {bs : List UInt8} :
    Spelling.bytes.legible (Text.ofBytes bs) = Text.ofBytes bs ↔ bs.toByteArray.IsValidUTF8 := by
  rw [legible, Text.toBytes_ofBytes, Text.ofBytes_inj, Text.repair_eq_self_iff]

theorem Spelling.isName_legible (spelling : Spelling) {name : String} (h : IsName name) :
    IsName (spelling.legible name) := by
  cases spelling with
  | text => exact h
  | bytes =>
      constructor
      case ne_empty =>
        exact fun heq => h.ne_empty (Text.toList_eq_of_legible [] (by simp) heq)
      case ne_current =>
        exact fun heq => h.ne_current (Text.toList_eq_of_legible [0x2E] (by simp) heq)
      case ne_parent =>
        exact fun heq => h.ne_parent (Text.toList_eq_of_legible [0x2E, 0x2E] (by simp) heq)
      case no_separator =>
        intro hmem
        rw [legible, Text.ofBytes, String.toList_ofList] at hmem
        obtain ⟨b, hb, hslash⟩ := List.mem_map.1 hmem
        obtain rfl : b = 0x2F := Text.ofUInt8_injective hslash
        rcases (Text.repairs_repair _).mem hb with hb | hb
        · obtain ⟨c, hc, hslash⟩ := List.mem_map.1 hb
          obtain rfl : c = '/' := Text.eq_ofUInt8_of_byteOf (by decide) hslash
          exact h.no_separator hc
        · exact absurd hb (by decide)

end TreeWatch
