import Mathlib
import TaskBrowser.Variable

/-!
# Tables of variables

A variable is registered in the place of the one of its name, or at the end of the table.  So no two
variables of a table have the same name if they were registered one after another
(`VariableTable.ofList_distinct`), and then each is found by its name
(`VariableTable.Distinct.find?_eq_some_iff`).
-/

namespace TaskBrowser

/-- An element is found by its key in a list whose keys are distinct. -/
theorem find?_of_mem {α κ : Type} [BEq κ] [LawfulBEq κ] {key : α → κ} {l : List α}
    (hl : (l.map key).Nodup) {a : α} (ha : a ∈ l) : l.find? (key · == key a) = some a := by
  cases hfind : l.find? (key · == key a) with
  | none => exact absurd (beq_self_eq_true (key a)) (List.find?_eq_none.1 hfind a ha)
  | some b =>
      have hkey : key b = key a := by simpa using List.find?_some hfind
      rw [List.inj_on_of_nodup_map hl (List.mem_of_find?_eq_some hfind) ha hkey]

namespace VariableTable

/-- No two variables have the same name. -/
def Distinct (table : VariableTable) : Prop := (table.map Variable.name).Nodup

variable {table : VariableTable} {v : Variable} {name : Text}

/-- A variable that is registered adds its name to the table, unless the name is there. -/
theorem names_register (table : VariableTable) (v : Variable) :
    (table.register v).map Variable.name =
      if v.name ∈ table.map Variable.name then table.map Variable.name
      else table.map Variable.name ++ [v.name] := by
  induction table with
  | nil => rfl
  | cons w table ih =>
      rw [register]
      by_cases hname : w.name = v.name
      · rw [if_pos hname, List.map_cons, List.map_cons, hname, if_pos List.mem_cons_self]
      · rw [if_neg hname, List.map_cons, List.map_cons, ih]
        simp only [List.mem_cons, Ne.symm hname, false_or]
        split <;> rfl

theorem Distinct.register (h : table.Distinct) (v : Variable) : (table.register v).Distinct := by
  rw [Distinct, names_register]
  split
  next => exact h
  next hnew =>
    rw [← List.concat_eq_append]
    exact List.Nodup.concat hnew h

/-- The variables of a table that is registered have distinct names. -/
theorem ofList_distinct (vs : List Variable) : (ofList vs).Distinct := by
  have hregister : ∀ vs : List Variable, ∀ table : VariableTable, table.Distinct →
      Distinct (vs.foldl VariableTable.register table) := by
    intro vs
    induction vs with
    | nil => exact fun _ h => h
    | cons v vs ih => exact fun table h => ih _ (h.register v)
  exact hregister vs [] .nil

/-- A variable is found by its name. -/
theorem Distinct.find?_eq_some_iff (h : table.Distinct) :
    table.find? name = some v ↔ v ∈ table ∧ v.name = name := by
  constructor
  · intro hfind
    exact ⟨List.mem_of_find?_eq_some hfind, by simpa using List.find?_some hfind⟩
  · rintro ⟨hv, rfl⟩
    exact find?_of_mem h hv

end VariableTable

end TaskBrowser
