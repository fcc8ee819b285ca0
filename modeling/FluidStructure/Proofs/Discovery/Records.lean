import FluidStructure.Discovery.Registry

/-!
# Reading records back

A field of a record is read back to the byte, as long as its bytes leave room for a zero and have
none themselves.  So a record gives back the declaration that was packed, and records that stand one
behind the other give back all of them.
-/

namespace FluidStructure

open FluidStructure.Text

namespace Text.Label

theorem length_bytes (l : Label) : l.bytes.length = l.byteSize := by
  unfold bytes byteSize String.utf8ByteSize
  rw [List.length_append, Array.length_toList]
  rfl

theorem bytes_longest (bytes : List UInt8) (n : Nat) : (longest bytes n).bytes = bytes := by
  induction n with
  | zero => rfl
  | succ n ih =>
    unfold longest String.fromUTF8?
    split
    · rename_i text found
      split at found
      · obtain rfl := Option.some.inj found
        change (List.toByteArray (bytes.take (n + 1))).data.toList ++ bytes.drop (n + 1) = bytes
        rw [List.data_toByteArray, List.toList_toArray, List.take_append_drop]
      · cases found
    · exact ih

/-- No byte is lost. -/
theorem bytes_ofBytes (bytes : List UInt8) : (ofBytes bytes).bytes = bytes :=
  bytes_longest bytes bytes.length

theorem bytes_append (s t : String) :
    ((s ++ t : String) : Label).bytes = (s : Label).bytes ++ (t : Label).bytes := by
  unfold bytes
  simp

theorem toByteArray_bytes (s : String) : (s : Label).bytes.toByteArray = s.toByteArray := by
  have whole : (s : Label).bytes = s.toByteArray.data.toList := List.append_nil _
  rw [whole]
  apply ByteArray.ext
  rw [List.data_toByteArray, Array.toArray_toList]

/-- What is read as text is at least as long as any text that the bytes start with. -/
theorem length_le_longest {bytes : List UInt8} {s : String} (starts : (s : Label).bytes <+: bytes)
    {n : Nat} (reaches : (s : Label).bytes.length ≤ n) :
    (s : Label).bytes.length ≤ ((longest bytes n).text : Label).bytes.length := by
  induction n with
  | zero => exact Nat.le_trans reaches (Nat.zero_le _)
  | succ n ih =>
    unfold longest String.fromUTF8?
    by_cases valid : (bytes.take (n + 1)).toByteArray.IsValidUTF8
    · rw [dif_pos valid]
      have all : ((String.fromUTF8 _ valid : String) : Label).bytes = bytes.take (n + 1) := by
        change (List.toByteArray (bytes.take (n + 1))).data.toList ++ [] = _
        rw [List.append_nil, List.data_toByteArray, List.toList_toArray]
      change _ ≤ ((String.fromUTF8 _ valid : String) : Label).bytes.length
      rw [all, List.length_take]
      exact Nat.le_min.2 ⟨reaches, starts.length_le⟩
    · rw [dif_neg valid]
      refine ih (Nat.le_of_lt_succ (Nat.lt_of_le_of_ne reaches fun same => valid ?_))
      change (s : Label).bytes.length = n + 1 at same
      rw [← same, ← List.prefix_iff_eq_take.1 starts, toByteArray_bytes]
      exact s.isValidUTF8

/-- A text stands before some bytes if it stands before what is read of them. -/
theorem prefix_ofBytes_iff {bytes : List UInt8} {s : String} :
    s.toList <+: (ofBytes bytes).text.toList ↔ (s : Label).bytes <+: bytes := by
  have front : ((ofBytes bytes).text : Label).bytes <+: bytes := by
    refine ⟨(ofBytes bytes).fragment, Eq.trans ?_ (bytes_ofBytes bytes)⟩
    exact congrArg (· ++ (ofBytes bytes).fragment) (List.append_nil _)
  constructor
  · rintro ⟨rest, same⟩
    have whole : (ofBytes bytes).text = s ++ String.ofList rest := by
      rw [← String.toList_inj, String.toList_append, String.toList_ofList, same]
    rw [whole, bytes_append] at front
    exact (List.prefix_append _ _).trans front
  · intro starts
    have shorter := length_le_longest starts starts.length_le
    obtain ⟨rest, same⟩ := List.prefix_of_prefix_length_le starts front shorter
    refine List.isPrefix_of_utf8Encode_append_eq_utf8Encode rest.toByteArray ?_
    rw [String.utf8Encode_toList, String.utf8Encode_toList, ← toByteArray_bytes, ← toByteArray_bytes,
      ← List.toByteArray_append, same]

end Text.Label

namespace Parallel

/-- Bytes that a field can hold and give back. -/
def Plain (bytes : List UInt8) : Prop := 0 ∉ bytes ∧ bytes.length < fieldBytes

instance (bytes : List UInt8) : Decidable (Plain bytes) :=
  inferInstanceAs (Decidable (0 ∉ bytes ∧ bytes.length < fieldBytes))

theorem length_packField (l : Label) : (packField l).length = fieldBytes := by
  rw [packField, length_overwrite, List.length_replicate]

/-- Only the field itself is read. -/
theorem unpackField_append (l : Label) (rest : List UInt8) :
    unpackField (packField l ++ rest) = unpackField (packField l) := by
  unfold unpackField
  rw [List.take_left' (length_packField l),
    List.take_of_length_le (Nat.le_of_eq (length_packField l))]

theorem unpackField_packField {l : Label} (plain : Plain l.bytes) :
    unpackField (packField l) = .ofBytes l.bytes := by
  obtain ⟨free, short⟩ := plain
  have room : l.bytes.length ≤ (List.replicate fieldBytes (0 : UInt8)).length := by
    rw [List.length_replicate]
    exact Nat.le_of_lt short
  -- the zero behind the bytes is where the reading stops
  obtain ⟨zeros, padding⟩ : ∃ zeros, (List.replicate fieldBytes (0 : UInt8)).drop l.bytes.length =
      0 :: zeros := by
    rw [List.drop_replicate]
    exact ⟨List.replicate (fieldBytes - l.bytes.length - 1) 0, by
      rw [← List.replicate_succ]
      congr 1
      omega⟩
  unfold unpackField
  rw [List.take_of_length_le (Nat.le_of_eq (length_packField l)), packField,
    overwrite_of_le room, padding,
    List.takeWhile_append_of_pos, List.takeWhile_cons_of_neg, List.append_nil]
  · simp
  · intro b member
    exact decide_eq_true fun zero => free (zero ▸ member)

namespace Declaration

/-- The bytes of type and name. -/
def pair (d : Declaration) : List UInt8 × List UInt8 := (d.type.bytes, d.name.bytes)

/-- Type and name can be read back. -/
def Plain (d : Declaration) : Prop := Parallel.Plain d.type.bytes ∧ Parallel.Plain d.name.bytes

instance (d : Declaration) : Decidable d.Plain :=
  inferInstanceAs (Decidable (Parallel.Plain d.type.bytes ∧ Parallel.Plain d.name.bytes))

/-- The declaration with some bytes for type and name. -/
def ofPair (p : List UInt8 × List UInt8) : Declaration := ⟨.ofBytes p.1, .ofBytes p.2⟩

theorem pair_ofPair (p : List UInt8 × List UInt8) : (ofPair p).pair = p := by
  unfold pair ofPair
  rw [Label.bytes_ofBytes, Label.bytes_ofBytes]

theorem ofPair_inj {p q : List UInt8 × List UInt8} : ofPair p = ofPair q ↔ p = q :=
  ⟨fun same => by rw [← pair_ofPair p, same, pair_ofPair], fun same => same ▸ rfl⟩

theorem length_pack (d : Declaration) : d.pack.length = recordBytes := by
  unfold pack recordBytes
  rw [List.length_append, length_packField, length_packField, Nat.two_mul]

/-- Only the record itself is read. -/
theorem unpack_append (d : Declaration) (rest : List UInt8) :
    unpack (d.pack ++ rest) = unpack d.pack := by
  unfold unpack pack
  rw [List.append_assoc, unpackField_append, unpackField_append,
    List.drop_left' (length_packField _), List.drop_left' (length_packField _), unpackField_append]

theorem unpack_pack {d : Declaration} (plain : d.Plain) : unpack d.pack = ofPair d.pair := by
  unfold unpack pack
  rw [unpackField_append, unpackField_packField plain.1, List.drop_left' (length_packField _),
    unpackField_packField plain.2]
  rfl

/-- Each record is where its rank says. -/
theorem drop_records (ds : List Declaration) (r : Nat) :
    (ds.flatMap pack).drop (r * recordBytes) = (ds.drop r).flatMap pack := by
  induction ds generalizing r with
  | nil => simp
  | cons d ds ih =>
    cases r with
    | zero => simp
    | succ r =>
      rw [List.flatMap_cons, Nat.succ_mul, Nat.add_comm, ← List.drop_drop,
        List.drop_left' (length_pack d), ih, List.drop_succ_cons]

theorem unpackAll_packs (ds : List Declaration) :
    unpackAll ds.length (ds.flatMap pack) = ds.map fun d => unpack d.pack := by
  apply List.ext_getElem
  · simp [unpackAll]
  intro r _ there
  rw [List.length_map] at there
  simp only [unpackAll, List.getElem_map, List.getElem_range]
  rw [drop_records, List.drop_eq_getElem_cons there, List.flatMap_cons, unpack_append]

end Declaration

end Parallel

end FluidStructure
