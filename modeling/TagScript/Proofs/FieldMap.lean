import Mathlib.Data.List.Nodup
import TagScript.Datum

/-!
# Named data as maps

Fields are a list of named data. If each name occurs once, the list is a map, and looking up names
tells all about it but the order.

* `Fields.Distinct` says that each name occurs once; `Distinct.lookup_eq_some_iff` and
  `Distinct.lookup_of_perm` say that looking up is then the same as membership, in any order, and
  `Distinct.eq_of_perm` that the order is that of the names.
* `Distinct.lookup_set`, `Distinct.lookup_put` and `Distinct.lookup_present` say what is found after
  fields were changed, laid over others or dropped; `Distinct.set`, `Distinct.put` and
  `Distinct.present` say that names stay apart.
* `Distinct.filter_put` says in which order names that were not there before are added.
-/

namespace TagScript.Fields

variable {fields updates : Fields} {key : String} {value : Datum}

/-! ### Looking up -/

theorem lookup_cons_eq_ite (field : String × Datum) (fields : Fields) (key : String) :
    List.lookup key (field :: fields) =
      if key = field.1 then some field.2 else fields.lookup key := by
  obtain ⟨name, datum⟩ := field
  by_cases hkey : key = name
  · simp [hkey]
  · have hbeq : (key == name) = false := beq_false_of_ne hkey
    simp [List.lookup_cons, hkey, hbeq]

theorem lookup_eq_none_iff (fields : Fields) (key : String) :
    fields.lookup key = none ↔ key ∉ fields.map Prod.fst := by
  induction fields with
  | nil => simp
  | cons field fields ih =>
    rw [lookup_cons_eq_ite, List.map_cons, List.mem_cons, not_or, ← ih]
    by_cases hkey : key = field.1 <;> simp [hkey]

/-- Each name occurs once. -/
def Distinct (fields : Fields) : Prop := (fields.map Prod.fst).Nodup

instance (fields : Fields) : Decidable fields.Distinct :=
  inferInstanceAs (Decidable (List.Nodup _))

theorem Distinct.nodup (h : fields.Distinct) : fields.Nodup := List.Nodup.of_map _ h

theorem Distinct.of_cons {field : String × Datum} (h : Distinct (field :: fields)) :
    field.1 ∉ fields.map Prod.fst ∧ fields.Distinct :=
  List.nodup_cons.1 h

theorem Distinct.lookup_eq_some_iff (h : fields.Distinct) :
    fields.lookup key = some value ↔ (key, value) ∈ fields := by
  induction fields with
  | nil => simp
  | cons field fields ih =>
    obtain ⟨hfirst, hrest⟩ := h.of_cons
    rw [lookup_cons_eq_ite, List.mem_cons, ← ih hrest, Prod.ext_iff]
    by_cases hkey : key = field.1
    · have hnone := (lookup_eq_none_iff fields key).2 (hkey ▸ hfirst)
      simp [hkey ▸ hnone, hkey, eq_comm]
    · simp [hkey]

theorem Distinct.of_perm {others : Fields} (h : fields.Distinct) (hperm : others.Perm fields) :
    others.Distinct :=
  (hperm.map Prod.fst).nodup_iff.2 h

/-- The order of fields does not matter to looking up. -/
theorem Distinct.lookup_of_perm {others : Fields} (h : fields.Distinct) (hperm : others.Perm fields)
    (key : String) : others.lookup key = fields.lookup key := by
  apply Option.ext
  intro value
  rw [(h.of_perm hperm).lookup_eq_some_iff, h.lookup_eq_some_iff, hperm.mem_iff]

/-- Fields in which the same names stand in the same order are equal, if they are the same but for
the order. -/
theorem Distinct.eq_of_perm {others : Fields} (h : fields.Distinct) (hperm : fields.Perm others)
    (hnames : fields.map Prod.fst = others.map Prod.fst) : fields = others := by
  apply List.ext_getElem hperm.length_eq
  intro i hi hi'
  apply List.inj_on_of_nodup_map h (List.getElem_mem hi) (hperm.mem_iff.2 (List.getElem_mem hi'))
  have hname := congrArg (·[i]?) hnames
  simpa [hi, hi'] using hname

theorem Distinct.filter (h : fields.Distinct) (test : String × Datum → Bool) :
    Distinct (fields.filter test) :=
  List.Nodup.sublist (List.filter_sublist.map _) h

/-! ### Changing a datum -/

theorem set_of_not_mem (h : key ∉ fields.map Prod.fst) :
    fields.set key value = fields ++ [(key, value)] := by
  rw [Fields.set, if_neg]
  simpa using h

/-- A datum is replaced where its name stands. -/
theorem set_cons_self (h : key ∉ fields.map Prod.fst) (old : Datum) :
    Fields.set ((key, old) :: fields) key value = (key, value) :: fields := by
  have hrest : ∀ field ∈ fields, (if field.1 = key then (key, value) else field) = field := by
    intro field hfield
    have hname : field.1 ≠ key := by
      rintro rfl
      exact h (List.mem_map_of_mem hfield)
    exact if_neg hname
  simp [Fields.set, List.map_congr_left hrest]

theorem set_cons_of_ne {field : String × Datum} (h : field.1 ≠ key) :
    Fields.set (field :: fields) key value = field :: fields.set key value := by
  simp only [Fields.set, List.any_cons, beq_false_of_ne h, Bool.false_or, List.map_cons]
  split <;> simp

theorem Distinct.lookup_set (h : fields.Distinct) (key : String) (value : Datum) (name : String) :
    (fields.set key value).lookup name = if name = key then some value else fields.lookup name := by
  induction fields with
  | nil =>
    rw [set_of_not_mem (by simp)]
    exact lookup_cons_eq_ite (key, value) [] name
  | cons field fields ih =>
    obtain ⟨hfirst, hrest⟩ := h.of_cons
    by_cases hkey : field.1 = key
    · subst hkey
      rw [set_cons_self hfirst field.2, lookup_cons_eq_ite, lookup_cons_eq_ite]
      by_cases hname : name = field.1 <;> simp [hname]
    · rw [set_cons_of_ne hkey, lookup_cons_eq_ite, lookup_cons_eq_ite, ih hrest]
      by_cases hname : name = key
      · simp [hname, Ne.symm hkey]
      · simp [hname]

/-- The names stay where they are, and a new one is added behind them. -/
theorem Distinct.names_set (h : fields.Distinct) (key : String) (value : Datum) :
    (fields.set key value).map Prod.fst =
      if key ∈ fields.map Prod.fst then fields.map Prod.fst else fields.map Prod.fst ++ [key] := by
  induction fields with
  | nil => rfl
  | cons field fields ih =>
    obtain ⟨hfirst, hrest⟩ := h.of_cons
    by_cases hkey : field.1 = key
    · subst hkey
      simp [set_cons_self hfirst field.2]
    · rw [set_cons_of_ne hkey, List.map_cons, ih hrest, List.map_cons]
      simp only [List.mem_cons, Ne.symm hkey, false_or]
      split <;> rfl

theorem Distinct.set (h : fields.Distinct) (key : String) (value : Datum) :
    (fields.set key value).Distinct := by
  rw [Distinct, h.names_set]
  split
  · exact h
  · next hmem => exact List.concat_eq_append ▸ h.concat hmem

/-! ### Laying fields over others -/

theorem put_cons (fields : Fields) (update : String × Datum) (updates : Fields) :
    fields.put (update :: updates) = (fields.set update.1 update.2).put updates := rfl

theorem Distinct.put (h : fields.Distinct) (updates : Fields) : (fields.put updates).Distinct := by
  induction updates generalizing fields with
  | nil => exact h
  | cons update updates ih =>
    rw [put_cons]
    exact ih (h.set update.1 update.2)

/-- The data on top are found, and those below where there are none on top. -/
theorem Distinct.lookup_put (h : fields.Distinct) (hupdates : updates.Distinct) (key : String) :
    (fields.put updates).lookup key = (updates.lookup key).or (fields.lookup key) := by
  induction updates generalizing fields with
  | nil => rfl
  | cons update updates ih =>
    obtain ⟨hfirst, hrest⟩ := hupdates.of_cons
    rw [put_cons, ih (h.set update.1 update.2) hrest, h.lookup_set, lookup_cons_eq_ite]
    by_cases hkey : key = update.1
    · have hnone := (lookup_eq_none_iff updates update.1).2 hfirst
      simp [hkey, hnone]
    · simp [hkey]

/-! ### Fields that are not absent -/

theorem mem_present {field : String × Datum} :
    field ∈ fields.present ↔ field ∈ fields ∧ field.2.isNull = false := by
  simp [present]

theorem Distinct.present (h : fields.Distinct) : fields.present.Distinct := h.filter _

theorem Distinct.lookup_present (h : fields.Distinct) (key : String) :
    fields.present.lookup key = (fields.lookup key).filter (!·.isNull) := by
  apply Option.ext
  intro value
  rw [h.present.lookup_eq_some_iff, mem_present, Option.filter_eq_some_iff, h.lookup_eq_some_iff]
  simp

/-- Absent data lie below or on top as if they were not there. -/
theorem Distinct.lookup_present_put {others : Fields} (h : fields.Distinct)
    (hupdates : updates.Distinct) (hperm : others.Perm (fields.put updates.present))
    (key : String) :
    others.present.lookup key = (updates.present.lookup key).or (fields.present.lookup key) := by
  have hput : (fields.put updates.present).Distinct := h.put updates.present
  rw [(hput.of_perm hperm).lookup_present, hput.lookup_of_perm hperm,
    h.lookup_put hupdates.present, h.lookup_present]
  cases hkey : updates.present.lookup key with
  | none => rw [Option.none_or, Option.none_or]
  | some d =>
    obtain ⟨-, hd⟩ := mem_present.1 (hupdates.present.lookup_eq_some_iff.1 hkey)
    rw [Option.some_or, Option.some_or, Option.filter_some_pos (by simp [hd])]

/-! ### The order of new names -/

variable (test : String → Bool)

theorem Distinct.filter_set_of_not (h : fields.Distinct) (value : Datum) (hkey : test key = false) :
    (fields.set key value).filter (fun field => test field.1) =
      fields.filter fun field => test field.1 := by
  induction fields with
  | nil => simp [set_of_not_mem, hkey]
  | cons field fields ih =>
    obtain ⟨hfirst, hrest⟩ := h.of_cons
    by_cases hname : field.1 = key
    · subst hname
      simp [set_cons_self hfirst field.2, hkey]
    · rw [set_cons_of_ne hname, List.filter_cons, List.filter_cons, ih hrest]

/-- Among the names of a class in which the fields below have none of those on top, the new ones are
added in their order. -/
theorem Distinct.filter_put (h : fields.Distinct) (hupdates : updates.Distinct)
    (hnew : ∀ update ∈ updates, test update.1 = true → update.1 ∉ fields.map Prod.fst) :
    (fields.put updates).filter (fun field => test field.1) =
      fields.filter (fun field => test field.1) ++ updates.filter fun field => test field.1 := by
  induction updates generalizing fields with
  | nil => simp [Fields.put]
  | cons update updates ih =>
    obtain ⟨hfirst, hrest⟩ := hupdates.of_cons
    have hnew' : ∀ later ∈ updates, test later.1 = true →
        later.1 ∉ (fields.set update.1 update.2).map Prod.fst := by
      intro later hlater htest
      have hne : later.1 ≠ update.1 := fun heq => hfirst (heq ▸ List.mem_map_of_mem hlater)
      have hold := hnew later (List.mem_cons_of_mem _ hlater) htest
      rw [h.names_set]
      split
      · exact hold
      · simp [hold, hne]
    rw [put_cons, ih (h.set update.1 update.2) hrest hnew']
    cases htest : test update.1 with
    | false => simp [h.filter_set_of_not test update.2 htest, htest]
    | true => simp [set_of_not_mem (hnew update List.mem_cons_self htest), htest]

end TagScript.Fields
