import Mathlib.Data.List.Nodup
import Mathlib.Data.List.Perm.Basic
import Mathlib.Logic.Function.Basic

/-!
# Settings that are given once

A reader takes settings one after another, each a name and a value, and may refuse one.
What it keeps is a view of what was given: for each name the value, or nothing.  A reader
that takes a name only once, and a setting only for what it is, accepts the same lists of
settings in every order, and ends in the view of the list.

`Reader.readAll_iff` says what a whole run accepts and where it ends; `Reader.readAll_perm` is
that the order does not matter.
-/

namespace Settings

universe u v w x

variable {σ : Type u} {ε : Type v} {ν : Type w} {α : Type x}

/-- Settings read one after another. -/
def readAll (read : σ → ν → α → Except ε σ) (s : σ) : List (ν × α) → Except ε σ
  | [] => .ok s
  | (name, value) :: settings =>
      match read s name value with
      | .error e => .error e
      | .ok s' => readAll read s' settings

variable [DecidableEq ν]

/-- A reader whose states are views of what was given. -/
structure Reader (read : σ → ν → α → Except ε σ) where
  /-- The state that shows what was given. -/
  view : (ν → Option α) → σ
  /-- The settings that are what they should be, on their own. -/
  accepts : ν → α → Prop
  read_iff : ∀ {given : ν → Option α}, (∀ n v, given n = some v → accepts n v) →
    ∀ name value s, read (view given) name value = .ok s ↔
      given name = none ∧ accepts name value ∧
        s = view (Function.update given name (some value))

/-! ## What a list gives -/

/-- A list that gives no name twice gives what it holds. -/
theorem lookup_eq_some_iff_mem {settings : List (ν × α)} (h : (settings.map Prod.fst).Nodup)
    {name : ν} {value : α} : settings.lookup name = some value ↔ (name, value) ∈ settings := by
  induction settings with
  | nil => simp
  | cons p settings ih =>
      obtain ⟨n, v⟩ := p
      rw [List.map_cons, List.nodup_cons] at h
      rw [List.lookup_cons, List.mem_cons, Prod.mk.injEq]
      by_cases hn : name = n
      · subst hn
        have hnot : (name, value) ∉ settings := fun hmem => h.1 (List.mem_map.mpr ⟨_, hmem, rfl⟩)
        simp [hnot, eq_comm]
      · have hbeq : (name == n) = false := beq_eq_false_iff_ne.mpr hn
        simp [hbeq, hn, ih h.2]

theorem lookup_eq_none_iff_notMem {settings : List (ν × α)} {name : ν} :
    settings.lookup name = none ↔ name ∉ settings.map Prod.fst := by
  rw [List.lookup_eq_none_iff, List.mem_map]
  constructor
  · rintro h ⟨p, hp, rfl⟩
    exact absurd (h p hp) (by simp)
  · intro h p hp
    rw [bne_iff_ne]
    rintro rfl
    exact h ⟨p, hp, rfl⟩

/-- The order of a list does not matter to what it gives. -/
theorem lookup_perm {settings settings' : List (ν × α)} (hperm : settings.Perm settings')
    (h : (settings.map Prod.fst).Nodup) (name : ν) :
    settings.lookup name = settings'.lookup name := by
  have h' : (settings'.map Prod.fst).Nodup := (hperm.map Prod.fst).nodup_iff.mp h
  refine Option.ext fun value => ?_
  rw [lookup_eq_some_iff_mem h, lookup_eq_some_iff_mem h', hperm.mem_iff]

/-! ## Runs -/

namespace Reader

variable {read : σ → ν → α → Except ε σ} (R : Reader read)

/-- The first setting is read, and shows in the state the others are read in. -/
theorem readAll_cons_iff {given : ν → Option α} (hgiven : ∀ n v, given n = some v → R.accepts n v)
    (name : ν) (value : α) (settings : List (ν × α)) (s : σ) :
    readAll read (R.view given) ((name, value) :: settings) = .ok s ↔
      given name = none ∧ R.accepts name value ∧
        readAll read (R.view (Function.update given name (some value))) settings = .ok s := by
  rw [readAll]
  cases hread : read (R.view given) name value with
  | error e =>
      constructor
      · intro h
        cases h
      · rintro ⟨hnone, haccepts, -⟩
        have hok := (R.read_iff hgiven name value _).mpr ⟨hnone, haccepts, rfl⟩
        rw [hread] at hok
        cases hok
  | ok s' =>
      obtain ⟨hnone, haccepts, rfl⟩ := (R.read_iff hgiven name value s').mp hread
      exact ⟨fun h => ⟨hnone, haccepts, h⟩, fun h => h.2.2⟩

/-- What is given stays acceptable. -/
theorem accepts_update {given : ν → Option α} (hgiven : ∀ n v, given n = some v → R.accepts n v)
    {name : ν} {value : α} (h : R.accepts name value) :
    ∀ n v, Function.update given name (some value) n = some v → R.accepts n v := by
  intro n v hn
  by_cases heq : n = name
  · subst heq
    rw [Function.update_self, Option.some.injEq] at hn
    exact hn ▸ h
  · rw [Function.update_of_ne heq] at hn
    exact hgiven n v hn

/-- A run over what was given before it. -/
theorem readAll_view_iff {given : ν → Option α} (hgiven : ∀ n v, given n = some v → R.accepts n v)
    (settings : List (ν × α)) (s : σ) :
    readAll read (R.view given) settings = .ok s ↔
      (settings.map Prod.fst).Nodup ∧
      (∀ p ∈ settings, given p.1 = none ∧ R.accepts p.1 p.2) ∧
      s = R.view fun n => (settings.lookup n).or (given n) := by
  induction settings generalizing given with
  | nil => simp [readAll, eq_comm]
  | cons p settings ih =>
      obtain ⟨name, value⟩ := p
      rw [R.readAll_cons_iff hgiven, List.map_cons, List.nodup_cons, List.forall_mem_cons]
      have hne (hname : name ∉ settings.map Prod.fst) : ∀ p ∈ settings, p.1 ≠ name := by
        rintro p hp rfl
        exact hname (List.mem_map_of_mem hp)
      have hview (hname : name ∉ settings.map Prod.fst) :
          (fun n => (settings.lookup n).or (Function.update given name (some value) n)) =
            fun n => (((name, value) :: settings).lookup n).or (given n) := by
        funext n
        rw [List.lookup_cons]
        by_cases hn : n = name
        · subst hn
          rw [lookup_eq_none_iff_notMem.mpr hname, Function.update_self, beq_self_eq_true]
          rfl
        · rw [Function.update_of_ne hn, beq_eq_false_iff_ne.mpr hn]
      constructor
      · rintro ⟨hnone, haccepts, hrun⟩
        obtain ⟨hnodup, hrest, rfl⟩ := (ih (R.accepts_update hgiven haccepts)).mp hrun
        have hname : name ∉ settings.map Prod.fst := by
          intro hmem
          obtain ⟨p, hp, heq⟩ := List.mem_map.mp hmem
          have hset := (hrest p hp).1
          rw [heq, Function.update_self] at hset
          cases hset
        refine ⟨⟨hname, hnodup⟩, ⟨⟨hnone, haccepts⟩, ?_⟩, by rw [hview hname]⟩
        intro p hp
        rw [← Function.update_of_ne (hne hname p hp) (some value) given]
        exact hrest p hp
      · rintro ⟨⟨hname, hnodup⟩, ⟨⟨hnone, haccepts⟩, hrest⟩, rfl⟩
        refine ⟨hnone, haccepts, (ih (R.accepts_update hgiven haccepts)).mpr ⟨hnodup, ?_, ?_⟩⟩
        · intro p hp
          rw [Function.update_of_ne (hne hname p hp)]
          exact hrest p hp
        · rw [hview hname]

/-- What a run accepts, and where it ends. -/
theorem readAll_iff (settings : List (ν × α)) (s : σ) :
    readAll read (R.view fun _ => none) settings = .ok s ↔
      (settings.map Prod.fst).Nodup ∧ (∀ p ∈ settings, R.accepts p.1 p.2) ∧
        s = R.view fun n => settings.lookup n := by
  rw [R.readAll_view_iff (fun _ _ h => by cases h)]
  simp

/-- The order of the settings does not matter. -/
theorem readAll_perm {settings settings' : List (ν × α)} (hperm : settings.Perm settings') {s : σ}
    (h : readAll read (R.view fun _ => none) settings = .ok s) :
    readAll read (R.view fun _ => none) settings' = .ok s := by
  obtain ⟨hnodup, haccepts, rfl⟩ := (R.readAll_iff settings s).mp h
  refine (R.readAll_iff settings' _).mpr ⟨(hperm.map Prod.fst).nodup_iff.mp hnodup, ?_, ?_⟩
  · intro p hp
    exact haccepts p (hperm.mem_iff.mpr hp)
  · exact congrArg R.view (funext fun name => lookup_perm hperm hnodup name)

end Reader

end Settings
