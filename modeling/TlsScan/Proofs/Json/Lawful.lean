import TlsScan.Json.Codec
import TlsScan.Proofs.Json.Printing

/-!
# Values that are read back

A type is lawful if every value is decoded from the document of its written form.  As what
was printed is read as that document, such a value is read back from its text, and two
values never have the same text.

## Main Definitions

* `Json.Lawful` — a type whose values are decoded from their documents.
* `Json.NotNull` — a type none of whose values is written as null, so that it can be optional.
* `Json.RoundTrips` — values are read back from their texts.

## Main Results

* `Json.Lawful.roundTrips` — the values of a lawful type are.
-/

namespace TlsScan.Json

/-- **A type whose values are decoded from the documents of their written forms**, in which
there are no doubles. -/
class Lawful (α : Type) [Codec α] : Prop where
  wholeNumbers : ∀ a : α, WholeNumbers (Codec.encode a)
  decode?_encode : ∀ a : α, Codec.decode? (Document.ofJson (Codec.encode a)) = some a

/-- **A type none of whose values is written as null.** -/
class NotNull (α : Type) [Codec α] : Prop where
  ne_null : ∀ a : α, Document.ofJson (Codec.encode a) ≠ .null

export Lawful (wholeNumbers decode?_encode)

attribute [simp] Lawful.wholeNumbers Lawful.decode?_encode

/-- **Values are read back from their texts**, so that two values never have the same. -/
def RoundTrips (α : Type) [Codec α] : Prop :=
  (∀ a : α, read? α (write a) = some a) ∧ Function.Injective (write : α → String)

/-- **The values of a lawful type are read back from their texts.** -/
theorem Lawful.roundTrips (α : Type) [Codec α] [Lawful α] : RoundTrips α := by
  have hread : ∀ a : α, read? α (write a) = some a := by
    intro a
    rw [read?, write, parse?_compact (wholeNumbers a)]
    exact decode?_encode a
  refine ⟨hread, fun a b h => ?_⟩
  have := hread a
  rw [h, hread b] at this
  exact (Option.some.inj this).symm

/-! ## Records and alternatives -/

section
variable {fields : List (String × Json)}

/-- A field is found under its name, and it is not there again. -/
theorem lookUp?_ofJson (h : (fields.map Prod.fst).Nodup) (name : String) :
    Document.lookUp? name (Document.ofJsonFields fields)
      = some ((fields.lookup name).map Document.ofJson) := by
  induction fields with
  | nil => rfl
  | cons f fields ih =>
      obtain ⟨k, j⟩ := f
      obtain ⟨hk, hfields⟩ := List.nodup_cons.mp h
      rw [Document.ofJsonFields, Document.lookUp?, List.lookup_cons]
      by_cases hname : k = name
      · subst hname
        have hnone : (Document.ofJsonFields fields).any (fun f => f.1 = some k) = false := by
          rw [Document.ofJsonFields_eq_map, List.any_map, List.any_eq_false]
          intro f hf heq
          exact hk (List.mem_map.mpr ⟨f, hf, by simpa using heq⟩)
        rw [if_pos rfl, hnone, beq_self_eq_true]
        rfl
      · have hne : (name == k) = false := beq_false_of_ne (Ne.symm hname)
        rw [if_neg (fun heq => hname (Option.some.inj heq)), ih hfields, hne]

/-- **The fields of a record that was written are those that were written.** -/
theorem record?_ofJson {names : List String} {needed : Nat}
    (h : (fields.map Prod.fst).Nodup) :
    (Document.ofJson (.object fields)).record? names needed
      = some (names.map fun name => (fields.lookup name).map Document.ofJson) := by
  have hkeys : (Document.ofJsonFields fields).all (fun f => f.1.isSome) = true := by
    rw [Document.ofJsonFields_eq_map, List.all_map, List.all_eq_true]
    exact fun _ _ => rfl
  rw [Document.ofJson, Document.record?, if_pos hkeys]
  induction names with
  | nil => rfl
  | cons name names ih =>
      rw [List.mapM_cons, lookUp?_ofJson h, ih]
      rfl

/-- **A record is decoded from what was written** if its value is made of the fields. -/
theorem record?_ofJson_bind {α : Type} {names : List String} {needed : Nat}
    {f : List (Option Document) → Option α} {a : α} (h : (fields.map Prod.fst).Nodup)
    (hf : f (names.map fun name => (fields.lookup name).map Document.ofJson) = some a) :
    ((Document.ofJson (.object fields)).record? names needed >>= f) = some a := by
  rw [record?_ofJson h]
  exact hf

end

/-- An alternative that was written carries what was written with its name. -/
theorem variant?_ofJson (name : String) (j : Json) :
    (Document.ofJson (.object [(name, j)])).variant? = some (name, some (Document.ofJson j)) :=
  rfl

/-- The entries of an object that was written are those that were written. -/
theorem Document.entries?_ofJson (fields : List (String × Json)) :
    (Document.ofJson (.object fields)).entries?
      = some (fields.map fun f => (f.1, Document.ofJson f.2)) := by
  show (Document.ofJsonFields fields).mapM _ = _
  induction fields with
  | nil => rfl
  | cons f fields ih =>
      rw [Document.ofJsonFields, List.mapM_cons, ih]
      rfl

section
variable {α : Type} [Codec α] [Lawful α]

@[simp] theorem required?_encode (a : α) :
    required? (some (Document.ofJson (Codec.encode a))) = some a := decode?_encode a

@[simp] theorem withDefault?_encode (default a : α) :
    withDefault? default (some (Document.ofJson (Codec.encode a))) = some a := decode?_encode a

end

@[simp] theorem optional?_encode {α : Type} [Codec α] [Lawful (Option α)] (a : Option α) :
    optional? (some (Document.ofJson (Codec.encode a))) = some a := decode?_encode a

/-! ## Words, texts and numbers -/

instance {α : Type} [Vocabulary α] : Lawful α where
  wholeNumbers _ := trivial
  decode?_encode a := Vocabulary.ofWord?_word a

instance {α : Type} [Vocabulary α] : NotNull α where
  ne_null _ := nofun

instance : Lawful String where
  wholeNumbers _ := trivial
  decode?_encode _ := rfl

instance : NotNull String where
  ne_null _ := nofun

instance : Lawful Bool where
  wholeNumbers _ := trivial
  decode?_encode _ := rfl

theorem natural?_ofNat {n bound : Nat} (hn : n ≤ bound) (hbound : bound < UInt64.size) :
    (Document.ofJson (ofNat n)).natural? bound = some n :=
  Literal.natural?_ofInt hn hbound

instance : Lawful UInt16 where
  wholeNumbers _ := trivial
  decode?_encode n := by
    have hn : n.toNat ≤ UInt16.size - 1 := Nat.le_pred_of_lt n.toNat_lt
    show ((Document.ofJson (ofNat n.toNat)).natural? (UInt16.size - 1)).map UInt16.ofNat = _
    rw [natural?_ofNat hn (by decide), Option.map_some, UInt16.ofNat_toNat]

instance : NotNull UInt16 where
  ne_null _ := nofun

instance : Lawful UInt64 where
  wholeNumbers _ := trivial
  decode?_encode n := by
    have hn : n.toNat ≤ UInt64.size - 1 := Nat.le_pred_of_lt n.toNat_lt
    show ((Document.ofJson (ofNat n.toNat)).natural? (UInt64.size - 1)).map UInt64.ofNat = _
    rw [natural?_ofNat hn (by decide), Option.map_some, UInt64.ofNat_toNat]

/-! ## Options and lists -/

section
variable {α : Type} [Codec α] [Lawful α]

/-- A value that may be missing is told from null. -/
instance [NotNull α] : Lawful (Option α) where
  wholeNumbers a := by
    cases a with
    | none => trivial
    | some a => exact wholeNumbers a
  decode?_encode a := by
    cases a with
    | none => rfl
    | some a =>
        show Codec.decode? (Document.ofJson (Codec.encode a)) = some (some a)
        have hne := NotNull.ne_null a
        have hdecode := decode?_encode a
        generalize Document.ofJson (Codec.encode a) = d at hne hdecode
        show (match d with
          | .null => some none
          | d => (Codec.decode? d).map some) = _
        split
        · exact absurd rfl hne
        · rw [hdecode]
          rfl

theorem mapM_decode?_encode (l : List α) :
    (l.map fun a => Document.ofJson (Codec.encode a)).mapM Codec.decode? = some l := by
  induction l with
  | nil => rfl
  | cons a l ih =>
      rw [List.map_cons, List.mapM_cons, decode?_encode, ih]
      rfl

instance : Lawful (List α) where
  wholeNumbers l := by
    show WholeItems (l.map Codec.encode)
    rw [wholeItems_iff]
    intro j hj
    obtain ⟨a, -, rfl⟩ := List.mem_map.mp hj
    exact wholeNumbers a
  decode?_encode l := by
    show (Document.ofJsonItems (l.map Codec.encode)).mapM Codec.decode? = some l
    rw [Document.ofJsonItems_eq_map, List.map_map]
    exact mapM_decode?_encode l

end

end TlsScan.Json
