import Parley.Proofs.Store.Refinement

/-!
# What becomes of a table

Three statements write rows of conversations: one renames, one marks as deleted, and one
sets a name that was made. Each changes the rows for which all of its conditions are
true, so a row that it cannot compare stays as it is. Rows are added from elsewhere, with
ids of their own, and none is ever taken out.

* `map_effect`: ids and times of creation stay as they are, whatever is sent.
* `Evolves.born_isPrefix`, `Evolves.nodup_ids`: so they do for as long as a table evolves.
* `exists_of_mem_rename`: a row behind a renaming is as it was, or has just been updated.
-/
namespace Parley.Store

/-- A table with those rows changed for which all conditions are true. -/
def update (conditions : List Condition) (change : Conversation → Conversation)
    (table : List Conversation) : List Conversation :=
  table.map fun c => if ∀ p ∈ conditions, p.truth c = some true then change c else c

/-- What a statement makes of a table at the time at which it is sent. -/
def Statement.effect (s : Statement) (now : Int) (table : List Conversation) :
    List Conversation :=
  match s with
  | renameOwned app principal id name =>
    update (ownedById app principal id) (fun c => { c with name := name, updatedAt := now }) table
  | deleteOwned app principal id =>
    update (ownedById app principal id) (fun c => { c with isDeleted := true, updatedAt := now })
      table
  | setName id name => update [.equals .id (.uuid id)] (fun c => { c with name := name }) table
  | _ => table

/-- What may become of a table: rows are added, and statements are sent. -/
inductive Evolves (table : List Conversation) : List Conversation → Prop where
  | refl : Evolves table table
  | insert {later : List Conversation} (h : Evolves table later) (c : Conversation)
    (hc : c.id ∉ later.map (·.id)) : Evolves table (later ++ [c])
  | send {later : List Conversation} (h : Evolves table later) (s : Statement) (now : Int) :
    Evolves table (s.effect now later)

/-- What a row has for good. -/
def born (c : Conversation) : Uuid × Int :=
  (c.id, c.createdAt)

theorem map_update {β : Type} {f : Conversation → β} {change : Conversation → Conversation}
    (hf : ∀ c, f (change c) = f c) (conditions : List Condition) (table : List Conversation) :
    (update conditions change table).map f = table.map f := by
  unfold update
  rw [List.map_map]
  apply List.map_congr_left
  intro c _
  rw [Function.comp_apply]
  split
  · exact hf c
  · rfl

/-- No statement changes the ids and times of creation in a table. -/
theorem map_effect (s : Statement) (now : Int) (table : List Conversation) :
    (s.effect now table).map born = table.map born := by
  unfold Statement.effect
  split
  · apply map_update
    intro c
    rfl
  · apply map_update
    intro c
    rfl
  · apply map_update
    intro c
    rfl
  · rfl

theorem map_id_eq (table : List Conversation) :
    table.map (·.id) = (table.map born).map Prod.fst := by
  rw [List.map_map]
  rfl

theorem map_id_effect (s : Statement) (now : Int) (table : List Conversation) :
    (s.effect now table).map (·.id) = table.map (·.id) := by
  rw [map_id_eq, map_effect, ← map_id_eq]

variable {table later : List Conversation}

/-- The rows of a table stay what they were born as. -/
theorem Evolves.born_isPrefix (h : Evolves table later) : table.map born <+: later.map born := by
  induction h with
  | refl => exact List.prefix_rfl
  | insert h c hc ih =>
    rw [List.map_append]
    exact ih.trans (List.prefix_append _ _)
  | send h s now ih =>
    rw [map_effect]
    exact ih

theorem Evolves.nodup_ids (h : Evolves table later) (hids : (table.map (·.id)).Nodup) :
    (later.map (·.id)).Nodup := by
  induction h with
  | refl => exact hids
  | insert h c hc ih =>
    rw [List.map_append, List.map_singleton, ← List.concat_eq_append]
    exact List.Nodup.concat hc ih
  | send h s now ih =>
    rw [map_id_effect]
    exact ih

/-- Two rows of a table with distinct ids that were born with one id were born as one. -/
theorem createdAt_eq (hids : (later.map (·.id)).Nodup) {c d : Conversation}
    (hc : born c ∈ later.map born) (hd : born d ∈ later.map born) (hid : c.id = d.id) :
    c.createdAt = d.createdAt := by
  rw [map_id_eq] at hids
  have hborn := List.inj_on_of_nodup_map hids hc hd hid
  exact congrArg Prod.snd hborn

/-! ## Renaming -/

/-- A row behind a renaming is as it was before, or it has that id and was updated just
then. -/
theorem exists_of_mem_rename {app id : Uuid} {principal : Principal} {name : String} {now : Int}
    {d : Conversation} (hd : d ∈ (Statement.renameOwned app principal id name).effect now table) :
    ∃ c ∈ table, c.id = d.id ∧ (d = c ∨ d.id = id ∧ d.updatedAt = now) := by
  obtain ⟨c, hc, rfl⟩ := List.mem_map.mp hd
  refine ⟨c, hc, ?_⟩
  split
  · rename_i howned
    have hid : c.id = id := truth_id.mp (howned _ (by simp [ownedById]))
    exact ⟨rfl, Or.inr ⟨hid, rfl⟩⟩
  · exact ⟨rfl, Or.inl rfl⟩

end Parley.Store
