import SqlWright.Proofs.Keyed.Replacement
import SqlWright.Proofs.Placeholder.Naming
import Mathlib.Data.List.Nodup
/-! What rendering does to a placeholder table, as a sequence of bindings. A table that was
forked, bound and absorbed is the table bound directly; generated names stay distinct, in
order and out of reach of named bindings. -/
namespace SqlWright

/-- One entry into a table: a scalar under the next generated name, or a value under a
name of the caller. -/
inductive Binding where
  | scalar (value : Value)
  | named (name : String) (value : Value)

namespace Binding

def CallerNamed : Binding → Prop
  | .scalar _ => True
  | .named name _ => Placeholder.isCallerName name = true

def scalar? : Binding → Option Value
  | .scalar value => some value
  | .named .. => none

end Binding

namespace Placeholder

/-- Scalars under consecutive generated names. -/
def numbered : Nat → List Value → List (String × Value)
  | _, [] => []
  | index, value :: rest => (generated index, value) :: numbered (index + 1) rest

theorem numbered_append (first second : List Value) (index : Nat) :
    numbered index (first ++ second) =
      numbered index first ++ numbered (index + first.length) second := by
  induction first generalizing index with
  | nil => rfl
  | cons value rest ih =>
    have shifted : index + 1 + rest.length = index + (rest.length + 1) := by omega
    simp [numbered, ih, shifted]

theorem mem_numbered {start : Nat} {values : List Value} {entry : String × Value}
    (member : entry ∈ numbered start values) :
    ∃ index, start ≤ index ∧ index < start + values.length ∧ entry.1 = generated index := by
  induction values generalizing start with
  | nil => cases member
  | cons value rest ih =>
    rcases List.mem_cons.mp member with rfl | inRest
    · exact ⟨start, Nat.le_refl _, by simp, rfl⟩
    · obtain ⟨index, lower, upper, same⟩ := ih inRest
      exact ⟨index, by omega, by simp only [List.length_cons]; omega, same⟩

theorem bare_numbered (start : Nat) (values : List Value) :
    (numbered start values).map (fun entry => bare entry.1) =
      (List.range' start values.length).map serial := by
  induction values generalizing start with
  | nil => rfl
  | cons value rest ih =>
    simp [numbered, List.range'_succ, bare_generated, ih]

end Placeholder

namespace Table

def bind (table : Table) : Binding → Table
  | .scalar value => (table.allocate value).2
  | .named name value => table.set name value

def bindAll (table : Table) (bindings : List Binding) : Table := bindings.foldl bind table

/-- No name from the counter on is taken. -/
def Fresh (table : Table) : Prop :=
  ∀ index, table.next ≤ index → Placeholder.generated index ∉ table.names

section Names

variable {table : Table} {name : String} {value : Value}

theorem names_allocate :
    (table.allocate value).2.names = table.names ++ [Placeholder.generated table.next] := by
  simp [allocate, names]

theorem set_absent (value : Value) (absent : name ∉ table.names) :
    table.set name value = { table with entries := table.entries ++ [(name, value)] } := by
  unfold set
  rw [Keyed.putAt_absent]
  intro entry member same
  exact absent (List.mem_map.mpr ⟨entry, member, by simpa using same⟩)

theorem names_set_present (present : name ∈ table.names) :
    (table.set name value).names = table.names :=
  Keyed.map_fst_putAt.trans (if_pos present)

theorem names_set_absent (absent : name ∉ table.names) :
    (table.set name value).names = table.names ++ [name] :=
  Keyed.map_fst_putAt.trans (if_neg absent)

theorem mem_names_set {other : String} :
    other ∈ (table.set name value).names ↔ other ∈ table.names ∨ other = name := by
  by_cases present : name ∈ table.names
  · rw [names_set_present present]
    constructor
    · exact .inl
    · rintro (old | rfl)
      · exact old
      · exact present
  · simp [names_set_absent present]

theorem setAll_eq_putAll (entries : List (String × Value)) :
    table.setAll entries =
      { table with
        entries := Keyed.putAll (fun entry => some entry.1) table.entries entries } := by
  induction entries generalizing table with
  | nil => rfl
  | cons first rest ih => exact @ih (table.set first.1 first.2)

theorem next_setAll (entries : List (String × Value)) :
    (table.setAll entries).next = table.next := by
  rw [setAll_eq_putAll]

/-- The counter plays no part in setting names. -/
theorem setAll_counter (next : Nat) (entries : List (String × Value)) :
    setAll { table with next := next } entries =
      { table.setAll entries with next := next } := by
  rw [setAll_eq_putAll, setAll_eq_putAll]

theorem mem_names_setAll {entries : List (String × Value)} :
    name ∈ (table.setAll entries).names ↔ name ∈ table.names ∨ name ∈ entries.map (·.1) := by
  induction entries generalizing table with
  | nil => simp [setAll]
  | cons first rest ih =>
    have step := @ih (table.set first.1 first.2)
    simp only [setAll, List.foldl_cons] at step ⊢
    rw [step, mem_names_set, List.map_cons, List.mem_cons, or_assoc]

/-- An entry stays where no other value is set under its name. -/
theorem mem_setAll_of_absent {entries : List (String × Value)} {entry : String × Value}
    (member : entry ∈ table.entries) (absent : entry.1 ∉ entries.map (·.1)) :
    entry ∈ (table.setAll entries).entries := by
  induction entries generalizing table with
  | nil => exact member
  | cons first rest ih =>
    have different : some entry.1 ≠ some first.1 := by
      intro same
      exact absent (by simp [Option.some.inj same])
    have kept : entry ∈ (table.set first.1 first.2).entries :=
      Keyed.mem_putAt_of_ne member different
    exact ih kept fun inRest => absent (by simp [inRest])

/-- Every entry of a list without repeated names is in the table it was set into. -/
theorem mem_setAll {entries : List (String × Value)} {entry : String × Value}
    (distinct : (entries.map (·.1)).Nodup) (member : entry ∈ entries) :
    entry ∈ (table.setAll entries).entries := by
  induction entries generalizing table with
  | nil => cases member
  | cons first rest ih =>
    obtain ⟨firstAbsent, restDistinct⟩ := List.nodup_cons.mp distinct
    rcases List.mem_cons.mp member with rfl | inRest
    · have held : entry ∈ (table.set entry.1 entry.2).entries := Keyed.self_mem_putAt
      exact @mem_setAll_of_absent (table.set entry.1 entry.2) rest entry held firstAbsent
    · exact ih restDistinct inRest

theorem setAll_append (first second : List (String × Value)) :
    table.setAll (first ++ second) = (table.setAll first).setAll second := by
  simp [setAll]

end Names

section Replay

variable {table child : Table} {name : String} {value : Value}

/-- Replaying a list in which a name was given a value is replaying the list, then giving
the name that value. -/
theorem setAll_putAt {entries : List (String × Value)} (distinct : (entries.map (·.1)).Nodup) :
    table.setAll (Keyed.putAt (fun entry => some entry.1) name (name, value) entries) =
      (table.setAll entries).set name value := by
  have replayed := @Keyed.putAll_putAt _ _ _ (fun entry : String × Value => some entry.1) name
    (name, value) table.entries entries rfl (Keyed.distinct_iff_nodup_names.mpr distinct)
  rw [setAll_eq_putAll, setAll_eq_putAll, replayed]
  rfl

theorem absorb_fork (table : Table) : table.absorb table.fork = table := by
  simp [absorb, fork, setAll]

theorem Fresh.bind {binding : Binding} (fresh : table.Fresh) (named : binding.CallerNamed) :
    (table.bind binding).Fresh := by
  intro index later member
  cases binding with
  | scalar value =>
    have above : table.next + 1 ≤ index := by simpa [Table.bind, allocate] using later
    rcases List.mem_append.mp (names_allocate ▸ member) with old | new
    · exact fresh index (by omega) old
    · have same : index = table.next := Placeholder.generated_inj.mp (by simpa using new)
      omega
  | named name value =>
    rcases mem_names_set.mp member with old | new
    · exact fresh index later old
    · exact Placeholder.ne_generated_of_isCallerName named index new.symm

theorem Fresh.nodup_bind {binding : Binding} (fresh : table.Fresh)
    (distinct : table.names.Nodup) : (table.bind binding).names.Nodup := by
  cases binding with
  | scalar value =>
    simp only [Table.bind, names_allocate]
    have absent := fresh table.next (Nat.le_refl _)
    exact List.nodup_append.mpr ⟨distinct, by simp, by
      rintro name member other new rfl
      exact absent (List.mem_singleton.mp new ▸ member)⟩
  | named name value => exact Keyed.nodup_map_fst_putAt distinct

/-- What every table met while rendering is: no generated name from the counter on is
taken, no name stands twice, and every name starts with a colon. -/
structure Sound (table : Table) : Prop where
  fresh : table.Fresh
  distinct : table.names.Nodup
  colonNamed : ∀ name ∈ table.names, ∃ bareName, name = ":" ++ bareName

theorem sound_fork (table : Table) : table.fork.Sound where
  fresh := by
    intro index _ member
    cases member
  distinct := List.nodup_nil
  colonNamed := by
    intro name member
    cases member

theorem sound_empty : ({} : Table).Sound := sound_fork {}

theorem Sound.bind {binding : Binding} (sound : table.Sound) (named : binding.CallerNamed) :
    (table.bind binding).Sound where
  fresh := sound.fresh.bind named
  distinct := sound.fresh.nodup_bind sound.distinct
  colonNamed := by
    intro other member
    cases binding with
    | scalar value =>
      rcases List.mem_append.mp (names_allocate ▸ member) with old | new
      · exact sound.colonNamed other old
      · exact ⟨_, (List.mem_singleton.mp new).trans (Placeholder.generated_eq table.next)⟩
    | named name value =>
      rcases mem_names_set.mp member with old | new
      · exact sound.colonNamed other old
      · obtain ⟨bareName, spelled, _⟩ := Placeholder.isCallerName_iff.mp named
        exact ⟨bareName, new.trans spelled⟩

/-- Absorbing a child after one more binding is making that binding in the absorbing table.
The child counts on from the table and brings no name twice. -/
theorem absorb_bind {binding : Binding} (fresh : table.Fresh) (childSound : child.Sound)
    (later : table.next ≤ child.next) :
    table.absorb (child.bind binding) = (table.absorb child).bind binding := by
  cases binding with
  | named name value =>
    exact setAll_putAt childSound.distinct
  | scalar value =>
    have counter : max table.next child.next = child.next := Nat.max_eq_right later
    have absent : Placeholder.generated child.next ∉ (table.setAll child.entries).names := by
      intro member
      rcases mem_names_setAll.mp member with old | new
      · exact fresh child.next later old
      · exact childSound.fresh child.next (Nat.le_refl _) new
    have counted : max table.next (child.next + 1) = child.next + 1 := by omega
    have appended := set_absent value absent
    simp only [absorb, Table.bind, allocate, setAll_counter, setAll_append, counter, counted]
    simpa [setAll, set] using congrArg Table.entries appended

/-- The invariant of a whole run: what a fork is bound to, the table it came from can be
bound to directly. -/
theorem absorb_bindAll {bindings : List Binding} (fresh : table.Fresh)
    (childSound : child.Sound) (later : table.next ≤ child.next)
    (named : ∀ binding ∈ bindings, binding.CallerNamed) :
    table.absorb (child.bindAll bindings) = (table.absorb child).bindAll bindings := by
  induction bindings generalizing child with
  | nil => rfl
  | cons binding rest ih =>
    have bindingNamed := named binding (List.mem_cons_self ..)
    have stepLater : table.next ≤ (child.bind binding).next := by
      cases binding with
      | scalar value => exact Nat.le_succ_of_le later
      | named name value => exact later
    calc table.absorb (child.bindAll (binding :: rest))
        = (table.absorb (child.bind binding)).bindAll rest :=
          ih (childSound.bind bindingNamed) stepLater
            fun other member => named other (List.mem_cons_of_mem _ member)
      _ = ((table.absorb child).bind binding).bindAll rest := by
          rw [absorb_bind fresh childSound later]

/-- Forking, binding and absorbing is binding in place. -/
theorem absorb_fork_bindAll {bindings : List Binding} (fresh : table.Fresh)
    (named : ∀ binding ∈ bindings, binding.CallerNamed) :
    table.absorb (table.fork.bindAll bindings) = table.bindAll bindings := by
  rw [absorb_bindAll fresh (sound_fork table) (Nat.le_refl _) named, absorb_fork]

end Replay

section Runs

variable {table : Table} {bindings : List Binding}

/-- The entries under names of the generated shape. -/
def generatedEntries (table : Table) : List (String × Value) :=
  table.entries.filter fun entry => Placeholder.isGenerated entry.1

theorem Sound.bindAll (sound : table.Sound)
    (named : ∀ binding ∈ bindings, binding.CallerNamed) : (table.bindAll bindings).Sound := by
  induction bindings generalizing table with
  | nil => exact sound
  | cons binding rest ih =>
    exact ih (sound.bind (named binding (List.mem_cons_self ..)))
      fun other member => named other (List.mem_cons_of_mem _ member)

theorem mem_names_bind {name : String} (binding : Binding) (member : name ∈ table.names) :
    name ∈ (table.bind binding).names := by
  cases binding with
  | scalar value => exact names_allocate ▸ List.mem_append_left _ member
  | named other value => exact mem_names_set.mpr (.inl member)

/-- No binding removes a name. -/
theorem mem_names_bindAll {name : String} (bindings : List Binding) (member : name ∈ table.names) :
    name ∈ (table.bindAll bindings).names := by
  induction bindings generalizing table with
  | nil => exact member
  | cons binding rest ih => exact ih (mem_names_bind binding member)

theorem mem_names_bindAll_of_named {name : String} {value : Value}
    (named : .named name value ∈ bindings) : name ∈ (table.bindAll bindings).names := by
  induction bindings generalizing table with
  | nil => cases named
  | cons binding rest ih =>
    rcases List.mem_cons.mp named with rfl | inRest
    · exact mem_names_bindAll rest (mem_names_set.mpr (.inr rfl))
    · exact ih inRest

/-- In a sound table a name has one value. -/
theorem Sound.value_unique (sound : table.Sound) {name : String} {first second : Value}
    (isFirst : (name, first) ∈ table.entries) (isSecond : (name, second) ∈ table.entries) :
    first = second := by
  have same := List.inj_on_of_nodup_map sound.distinct isFirst isSecond rfl
  exact congrArg Prod.snd same

/-- In a sound table the look-up of a name gives the value of its one entry. -/
theorem Sound.get?_of_mem (sound : table.Sound) {name bareName : String} {value : Value}
    (same : Placeholder.bare name = bareName) (held : (":" ++ bareName, value) ∈ table.entries) :
    table.get? name = some value := by
  have matched : decide (Placeholder.bare (":" ++ bareName) = Placeholder.bare name) = true := by
    simp [Placeholder.bare_colon, same]
  have found : (table.entries.find? fun entry =>
      Placeholder.bare entry.1 = Placeholder.bare name).isSome := by
    rw [List.find?_isSome]
    exact ⟨_, held, matched⟩
  obtain ⟨entry, chosen⟩ := Option.isSome_iff_exists.mp found
  have member := List.mem_of_find?_eq_some chosen
  have entryBare : Placeholder.bare entry.1 = bareName := by
    simpa [same] using List.find?_some chosen
  obtain ⟨other, spelled⟩ := sound.colonNamed entry.1 (List.mem_map_of_mem member)
  have sameName : entry.1 = ":" ++ bareName := by
    rw [spelled, Placeholder.bare_colon] at entryBare
    rw [spelled, entryBare]
  have sameEntry := List.inj_on_of_nodup_map sound.distinct member held sameName
  simp [get?, chosen, sameEntry]

theorem Fresh.bindAll (fresh : table.Fresh)
    (named : ∀ binding ∈ bindings, binding.CallerNamed) : (table.bindAll bindings).Fresh := by
  induction bindings generalizing table with
  | nil => exact fresh
  | cons binding rest ih =>
    exact ih (fresh.bind (named binding (List.mem_cons_self ..)))
      fun other member => named other (List.mem_cons_of_mem _ member)

theorem next_bindAll : (table.bindAll bindings).next =
    table.next + (bindings.filterMap Binding.scalar?).length := by
  induction bindings generalizing table with
  | nil => rfl
  | cons binding rest ih =>
    have step := @ih (table.bind binding)
    cases binding with
    | scalar value =>
      simp only [bindAll, List.foldl_cons, bind, allocate, List.filterMap_cons, Binding.scalar?,
        List.length_cons] at step ⊢
      omega
    | named name value => exact step

/-- A binding adds one generated entry if it is a scalar, and touches none otherwise. -/
theorem generatedEntries_bind {binding : Binding} (named : binding.CallerNamed) :
    (table.bind binding).generatedEntries =
      table.generatedEntries ++ Placeholder.numbered table.next binding.scalar?.toList := by
  cases binding with
  | scalar value =>
    simp [bind, allocate, generatedEntries, Binding.scalar?, Placeholder.numbered,
      Placeholder.isGenerated_generated]
  | named name value =>
    have spared := Placeholder.isGenerated_of_isCallerName named
    simp only [bind, set, generatedEntries, Binding.scalar?, Option.toList_none,
      Placeholder.numbered, List.append_nil]
    refine Keyed.filter_putAt _ ?_ ?_
    · exact spared
    · intro entry same
      rw [Option.some.inj same, spared]

/-- The generated entries of a run: its scalars in order, numbered on from the counter. -/
theorem generatedEntries_bindAll (named : ∀ binding ∈ bindings, binding.CallerNamed) :
    (table.bindAll bindings).generatedEntries = table.generatedEntries ++
      Placeholder.numbered table.next (bindings.filterMap Binding.scalar?) := by
  induction bindings generalizing table with
  | nil => simp [bindAll, Placeholder.numbered]
  | cons binding rest ih =>
    have step := @ih (table.bind binding) fun other member =>
      named other (List.mem_cons_of_mem _ member)
    have first := @generatedEntries_bind table _ (named binding (List.mem_cons_self ..))
    simp only [bindAll, List.foldl_cons] at step ⊢
    rw [step, first, List.append_assoc]
    cases binding <;> rfl

end Runs

end Table

end SqlWright
