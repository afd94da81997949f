import TlsScan.Proofs.Json.Printing

/-!
# Free-form data is read back

Data that a probe attaches may be any value without doubles.  Its objects are made by setting
one field after the other, so that their keys are in order, and the value of a document is
made in the same way.

## Main Definitions

* `Json.Data` — values without doubles, nested up to a depth.

## Main Results

* `Json.ofFields_eq` — an object whose keys are in order is made of its own fields.
* `Json.Data.value?_ofJson`, `Json.Data.depth_ofJson_le` — the document of data has the data
  as its value and is nested no deeper.
-/

namespace TlsScan.Json

/-- **Data without doubles, nested at most `n` deep**: whole numbers fit 64 bits, and objects
are made by setting one field after the other. -/
inductive Data : Nat → Json → Prop
  | null {n : Nat} : Data n .null
  | bool {n : Nat} (b : Bool) : Data n (.bool b)
  | whole {n : Nat} {i : Int} (h : Fits i) : Data n (.number (.whole i))
  | text {n : Nat} (s : String) : Data n (.text s)
  | array {n : Nat} {items : List Json} (h : ∀ j ∈ items, Data n j) : Data (n + 1) (.array items)
  | object {n : Nat} {fields : List (String × Json)} (h : ∀ f ∈ fields, Data n f.2) :
      Data (n + 1) (ofFields fields)

/-! ## Keys in order -/

/-- **The keys of the fields increase.** -/
def Ordered (fields : List (String × Json)) : Prop := fields.Pairwise fun f g => f.1 < g.1

section
variable {k : String} {v : Json} {fields l : List (String × Json)} {f : String × Json}

theorem mem_put (h : f ∈ put k v fields) : f = (k, v) ∨ f ∈ fields := by
  induction fields with
  | nil => exact .inl (List.mem_singleton.mp h)
  | cons g fields ih =>
      obtain ⟨l, w⟩ := g
      rw [put] at h
      split at h
      · exact List.mem_cons.mp h
      · split at h
        · exact (List.mem_cons.mp h).imp_right (List.mem_cons_of_mem _)
        · rcases List.mem_cons.mp h with rfl | h
          · exact .inr List.mem_cons_self
          · exact (ih h).imp_right (List.mem_cons_of_mem _)

/-- Setting a field keeps the keys in order. -/
theorem Ordered.put (h : Ordered fields) : Ordered (put k v fields) := by
  induction fields with
  | nil => exact List.pairwise_singleton _ _
  | cons g fields ih =>
      obtain ⟨l, w⟩ := g
      obtain ⟨hbound, hfields⟩ := List.pairwise_cons.mp h
      rw [Json.put]
      by_cases hlt : k < l
      · rw [if_pos hlt]
        refine List.pairwise_cons.mpr ⟨fun f hf => ?_, h⟩
        rcases List.mem_cons.mp hf with rfl | hf
        · exact hlt
        · exact String.lt_trans hlt (hbound f hf)
      · rw [if_neg hlt]
        by_cases heq : k = l
        · rw [if_pos heq]
          subst heq
          exact List.pairwise_cons.mpr ⟨hbound, hfields⟩
        · rw [if_neg heq]
          have hgt : l < k := by
            have hle : l ≤ k := String.not_lt.mp hlt
            exact Decidable.byContradiction fun hge =>
              heq (String.le_antisymm (String.not_lt.mp hge) hle)
          refine List.pairwise_cons.mpr ⟨fun f hf => ?_, ih hfields⟩
          rcases mem_put hf with rfl | hf
          · exact hgt
          · exact hbound f hf

/-- A key behind all others goes to the end. -/
theorem put_eq_append (h : ∀ g ∈ fields, g.1 < k) : put k v fields = fields ++ [(k, v)] := by
  induction fields with
  | nil => rfl
  | cons g fields ih =>
      obtain ⟨l, w⟩ := g
      obtain ⟨hl, hfields⟩ := List.forall_mem_cons.mp h
      have hlt : ¬ k < l := fun hk => String.lt_irrefl l (String.lt_trans hl hk)
      have hne : k ≠ l := by
        rintro rfl
        exact String.lt_irrefl k hl
      rw [put, if_neg hlt, if_neg hne, ih hfields, List.cons_append]

/-- The fields of an object that is made of a list of fields. -/
def putAll (fields l : List (String × Json)) : List (String × Json) :=
  l.foldl (fun fields f => Json.put f.1 f.2 fields) fields

theorem Ordered.putAll (h : Ordered fields) : Ordered (putAll fields l) := by
  induction l generalizing fields with
  | nil => exact h
  | cons g l ih => exact ih h.put

theorem mem_putAll (h : f ∈ putAll fields l) : f ∈ fields ∨ f ∈ l := by
  induction l generalizing fields with
  | nil => exact .inl h
  | cons g l ih =>
      rcases ih h with h | h
      · rcases mem_put h with rfl | h
        · exact .inr List.mem_cons_self
        · exact .inl h
      · exact .inr (List.mem_cons_of_mem _ h)

/-- What holds of all fields that were set holds of the fields of the object. -/
theorem forall_mem_putAll {P : String × Json → Prop} (h : ∀ f ∈ l, P f) :
    ∀ f ∈ putAll [] l, P f := by
  intro f hf
  rcases mem_putAll hf with hf | hf
  · cases hf
  · exact h f hf

theorem putAll_eq_append (h : Ordered (fields ++ l)) : putAll fields l = fields ++ l := by
  induction l generalizing fields with
  | nil => exact (List.append_nil _).symm
  | cons g l ih =>
      have hbefore : ∀ f ∈ fields, f.1 < g.1 := fun f hf =>
        (List.pairwise_append.mp h).2.2 f hf g List.mem_cons_self
      have hput : put g.1 g.2 fields = fields ++ [g] := put_eq_append hbefore
      show putAll (put g.1 g.2 fields) l = fields ++ g :: l
      rw [List.append_cons] at h ⊢
      rw [hput, ih h]

end

/-- **An object whose keys are in order is made of its own fields.** -/
theorem ofFields_eq {fields : List (String × Json)} (h : Ordered fields) :
    ofFields fields = .object fields := by
  have hput : putAll [] fields = fields := putAll_eq_append h
  exact congrArg object hput

/-! ## Documents of values -/

namespace Document

theorem depthItems_ofJson_le {l : List Json} {n : Nat} (h : ∀ j ∈ l, (ofJson j).depth ≤ n) :
    depthItems (ofJsonItems l) ≤ n := by
  induction l with
  | nil => exact Nat.zero_le n
  | cons j l ih =>
      obtain ⟨hj, hl⟩ := List.forall_mem_cons.mp h
      exact Nat.max_le.mpr ⟨hj, ih hl⟩

theorem depthFields_ofJson_le {l : List (String × Json)} {n : Nat}
    (h : ∀ f ∈ l, (ofJson f.2).depth ≤ n) : depthFields (ofJsonFields l) ≤ n := by
  induction l with
  | nil => exact Nat.zero_le n
  | cons f l ih =>
      obtain ⟨hf, hl⟩ := List.forall_mem_cons.mp h
      exact Nat.max_le.mpr ⟨hf, ih hl⟩

theorem valueItems?_ofJson {l : List Json} (h : ∀ j ∈ l, (ofJson j).value? = some j) :
    valueItems? (ofJsonItems l) = some l := by
  induction l with
  | nil => rfl
  | cons j l ih =>
      obtain ⟨hj, hl⟩ := List.forall_mem_cons.mp h
      rw [ofJsonItems, valueItems?, hj, ih hl]
      rfl

theorem valueFields?_ofJson {l : List (String × Json)}
    (h : ∀ f ∈ l, (ofJson f.2).value? = some f.2) :
    valueFields? (ofJsonFields l) = some l := by
  induction l with
  | nil => rfl
  | cons f l ih =>
      obtain ⟨hf, hl⟩ := List.forall_mem_cons.mp h
      rw [ofJsonFields, valueFields?, hf, ih hl]
      rfl

end Document

namespace Data

variable {n : Nat} {j : Json}

theorem wholeNumbers (h : Data n j) : WholeNumbers j := by
  induction h with
  | null => trivial
  | bool b => trivial
  | whole h => trivial
  | text s => trivial
  | array h ih => exact wholeItems_iff.mpr ih
  | object h ih => exact wholeFields_iff.mpr (forall_mem_putAll ih)

/-- **Data is nested no deeper as a document.** -/
theorem depth_ofJson_le (h : Data n j) : (Document.ofJson j).depth ≤ n := by
  induction h with
  | null => exact Nat.zero_le _
  | bool b => exact Nat.zero_le _
  | whole h => exact Nat.zero_le _
  | text s => exact Nat.zero_le _
  | array h ih => exact Nat.succ_le_succ (Document.depthItems_ofJson_le ih)
  | object h ih =>
      exact Nat.succ_le_succ (Document.depthFields_ofJson_le (forall_mem_putAll ih))

/-- **Data is the value of its document.** -/
theorem value?_ofJson (h : Data n j) : (Document.ofJson j).value? = some j := by
  induction h with
  | null => rfl
  | bool b => rfl
  | whole h => exact congrArg (Option.map Json.number) (Literal.value?_ofInt h)
  | text s => rfl
  | array h ih =>
      rw [Document.ofJson, Document.value?, Document.valueItems?_ofJson ih]
      rfl
  | @object n fields h ih =>
      have hfields : ofFields fields = .object (putAll [] fields) := rfl
      have hordered : Ordered (putAll [] fields) := Ordered.putAll List.Pairwise.nil
      rw [hfields, Document.ofJson, Document.value?,
        Document.valueFields?_ofJson (forall_mem_putAll ih), Option.map_some,
        ofFields_eq hordered]

/-- So data is taken from its document wherever the containers around it leave room. -/
theorem nestedValue?_ofJson {around : Nat} (h : Data n j)
    (hroom : around + n ≤ Document.deepest) :
    (Document.ofJson j).nestedValue? around = some j := by
  have hdepth := h.depth_ofJson_le
  rw [Document.nestedValue?, if_pos (by omega), h.value?_ofJson]

end Data

end TlsScan.Json
