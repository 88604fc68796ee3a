import Formwork.Proofs.Entries
import Formwork.Proofs.Naming
import Formwork.Service.Cache
import Mathlib.Data.List.Dedup
import Mathlib.Data.List.DropRight

/-!
# What a cache keeps

A cache keeps the validators that were used last. `Cache.History` puts the uses since the cache was
cleared next to the cache, and `Cache.Kept` is the link between the two: the names that are kept are
the last names of the uses, each at its last place, and a validator that is kept is the one that was
built when its name was last missed. Every request preserves the link.
-/

namespace Formwork

/-! ## The last names of a list -/

/-- The names that occur last, no more than a number of them, in the order of their last
occurrences. -/
def lastNames (n : Nat) (xs : List String) : List String := xs.dedup.rtake n

section LastNames

variable {x : String} {xs : List String} {n : Nat}

/-- One more name moves to the end. -/
theorem dedup_append_singleton (xs : List String) (x : String) :
    (xs ++ [x]).dedup = xs.dedup.filter (· != x) ++ [x] := by
  induction xs with
  | nil => simp
  | cons y ys ih =>
    rw [List.cons_append]
    by_cases hy : y ∈ ys
    · rw [List.dedup_cons_of_mem (List.mem_append_left _ hy), List.dedup_cons_of_mem hy, ih]
    · rw [List.dedup_cons_of_notMem hy]
      by_cases hyx : y = x
      · subst hyx
        rw [List.dedup_cons_of_mem (by simp), ih, List.filter_cons_of_neg (by simp)]
      · rw [List.dedup_cons_of_notMem (by simp [hy, hyx]), ih,
          List.filter_cons_of_pos (by simpa using hyx), List.cons_append]

theorem lastNames_nil : lastNames n [] = [] := by
  rw [lastNames, List.dedup_nil, List.rtake_nil]

theorem rtake_append {front back : List String} (h : front = [] ∨ n ≤ back.length) :
    (front ++ back).rtake n = back.rtake n := by
  rcases h with rfl | h
  · rfl
  · rw [List.rtake, List.rtake, List.length_append, Nat.add_sub_assoc h, List.drop_append,
      List.drop_eq_nil_of_le (Nat.le_add_right _ _), List.nil_append, Nat.add_sub_cancel_left]

theorem rtake_of_length_le (h : xs.length ≤ n) : xs.rtake n = xs := by
  rw [List.rtake, Nat.sub_eq_zero_of_le h, List.drop_zero]

/-- The last names, and what is before them: nothing unless there are enough of them. -/
theorem exists_before_lastNames (n : Nat) (xs : List String) :
    ∃ before, xs.dedup = before ++ lastNames n xs ∧
      (before = [] ∧ (lastNames n xs).length ≤ n ∨ (lastNames n xs).length = n) := by
  refine ⟨xs.dedup.take (xs.dedup.length - n), (List.take_append_drop _ _).symm, ?_⟩
  have hlength : (lastNames n xs).length = xs.dedup.length - (xs.dedup.length - n) :=
    List.length_drop
  by_cases h : xs.dedup.length ≤ n
  · refine Or.inl ⟨?_, by omega⟩
    rw [Nat.sub_eq_zero_of_le h, List.take_zero]
  · exact Or.inr (by omega)

theorem nodup_lastNames (n : Nat) (xs : List String) : (lastNames n xs).Nodup :=
  xs.nodup_dedup.sublist (List.drop_sublist _ _)

theorem length_lastNames_le (n : Nat) (xs : List String) : (lastNames n xs).length ≤ n := by
  obtain ⟨-, -, ⟨-, h⟩ | h⟩ := exists_before_lastNames n xs
  · exact h
  · exact h.le

/-- One of the last names, named again, moves to the end. -/
theorem lastNames_append_of_mem (hx : x ∈ lastNames (n + 1) xs) :
    lastNames (n + 1) (xs ++ [x]) = (lastNames (n + 1) xs).filter (· != x) ++ [x] := by
  -- The name leaves one place empty among the last names, so all others of them stay.
  obtain ⟨before, hxs, hbefore⟩ := exists_before_lastNames (n + 1) xs
  have hnodup : (before ++ lastNames (n + 1) xs).Nodup := hxs ▸ xs.nodup_dedup
  have hfilter : before.filter (· != x) = before := by
    refine List.filter_eq_self.mpr fun y hy => ?_
    have hyx : y ≠ x := fun h => (List.disjoint_of_nodup_append hnodup) hy (h ▸ hx)
    simpa using hyx
  have hlength : ((lastNames (n + 1) xs).filter (· != x)).length =
      (lastNames (n + 1) xs).length - 1 := by
    rw [← (nodup_lastNames (n + 1) xs).erase_eq_filter, List.length_erase_of_mem hx]
  rw [lastNames, dedup_append_singleton, List.rtake_concat_succ, hxs, List.filter_append, hfilter,
    rtake_append, rtake_of_length_le]
  · rw [hlength]
    have := length_lastNames_le (n + 1) xs
    omega
  · rcases hbefore with ⟨h, -⟩ | h
    · exact Or.inl h
    · exact Or.inr (by omega)

/-- Another name goes to the end, and the first of the last names makes room for it. -/
theorem lastNames_append_of_notMem (hx : x ∉ lastNames (n + 1) xs) :
    lastNames (n + 1) (xs ++ [x]) =
      (lastNames (n + 1) xs).drop ((lastNames (n + 1) xs).length + 1 - (n + 1)) ++ [x] := by
  obtain ⟨before, hxs, hbefore⟩ := exists_before_lastNames (n + 1) xs
  have hfilter : (lastNames (n + 1) xs).filter (· != x) = lastNames (n + 1) xs := by
    refine List.filter_eq_self.mpr fun y hy => ?_
    have hyx : y ≠ x := fun h => hx (h ▸ hy)
    simpa using hyx
  rw [lastNames, dedup_append_singleton, List.rtake_concat_succ, hxs, List.filter_append, hfilter,
    rtake_append, List.rtake, Nat.add_sub_add_right]
  rcases hbefore with ⟨rfl, -⟩ | h
  · exact Or.inl rfl
  · exact Or.inr (by omega)

end LastNames

namespace Cache

/-! ## Requests -/

/-- What is asked of a cache. Only a lookup tells whether the validator was kept. -/
inductive Request where
  | lookup (form : Form)
  | get (form : Form)
  | contains (name : String)
  | clear

/-- A use of a cache: the name of a form, whether its validator was kept, and the validator. -/
structure Use where
  name : String
  hit : Bool
  validator : Validator

inductive Answer where
  | used (u : Use)
  | failed (e : BuildError)
  | contained (b : Bool)
  | cleared

/-- A lookup of a form under the name of its content. -/
def use (c : Cache) (form : Form) : Except BuildError (Use × Cache) := do
  let name ← form.contentHash.mapError BuildError.noJson
  let (v, hit, c) ← c.lookup name form
  return (⟨name, hit, v⟩, c)

/-- The answer to a request, and the cache afterwards. -/
def serve (c : Cache) : Request → Answer × Cache
  | .lookup form | .get form =>
    match c.use form with
    | .ok (u, c) => (.used u, c)
    | .error e => (.failed e, c)
  | .contains name => (.contained (c.contains name), c)
  | .clear => (.cleared, c.clear)

/-- A cache with its uses since it was cleared, the last one at the end. -/
structure History where
  cache : Cache
  uses : List Use

namespace History

def next (h : History) (r : Request) : History :=
  match h.cache.serve r with
  | (.used u, c) => ⟨c, h.uses ++ [u]⟩
  | (.cleared, c) => ⟨c, []⟩
  | (_, c) => ⟨c, h.uses⟩

/-- The history of a new cache after some requests. -/
def after (capacity : Count) (rs : List Request) : History :=
  rs.foldl next ⟨empty capacity, []⟩

end History

/-- The validator was built when its name was missed last. -/
def LastBuilt (uses : List Use) (name : String) (v : Validator) : Prop :=
  ∃ before since, uses = before ++ ⟨name, false, v⟩ :: since ∧
    ∀ u ∈ since, u.name = name → u.hit = true

/-- What a cache holds in terms of its uses. -/
structure Kept (room : Count) (h : History) : Prop where
  capacity : h.cache.capacity = room
  names : h.cache.names = lastNames room.1 (h.uses.map Use.name)
  hits : h.cache.hits = h.uses.countP Use.hit
  misses : h.cache.misses = h.uses.countP fun u => !u.hit
  own : ∀ entry ∈ h.cache.entries, entry.2.hash = entry.1
  built : ∀ entry ∈ h.cache.entries, LastBuilt h.uses entry.1 entry.2

/-! ## Lookups -/

variable {c c' : Cache} {name : String} {form : Form} {v : Validator} {b : Bool}

/-- A lookup either finds the validator, or builds it. -/
theorem lookup_cases (h : c.lookup name form = .ok (v, b, c')) :
    (c.entries.lookup name = some v ∧ b = true ∧ c' = c.hit name v) ∨
    (name ∉ c.names ∧ Validator.build form (some name) = .ok v ∧ b = false ∧
      c' = c.miss name v) := by
  rw [lookup] at h
  split at h
  · rename_i w hw
    injection h with h
    injection h with hv h
    injection h with hhit hc
    subst hv hhit hc
    exact Or.inl ⟨hw, rfl, rfl⟩
  · rename_i hnone
    obtain ⟨w, hbuild, h⟩ := map_eq_ok_iff.mp h
    injection h with hv h
    injection h with hhit hc
    subst hv hhit hc
    exact Or.inr ⟨lookup_eq_none_iff_notMem.mp hnone, hbuild, rfl, rfl⟩

/-- What is used was looked up under the name of its form. -/
theorem use_eq_ok_iff {u : Use} :
    c.use form = .ok (u, c') ↔
      form.contentHash = .ok u.name ∧ c.lookup u.name form = .ok (u.validator, u.hit, c') := by
  rw [use, bind_eq_ok_iff]
  constructor
  · rintro ⟨name, hname, h⟩
    obtain ⟨⟨v, hit, c''⟩, hlookup, h⟩ := bind_eq_ok_iff.mp h
    injection h with h
    injection h with hu hc
    subst hu hc
    exact ⟨mapError_eq_ok_iff.mp hname, hlookup⟩
  · rintro ⟨hname, hlookup⟩
    exact ⟨u.name, mapError_eq_ok_iff.mpr hname, by rw [hlookup]; rfl⟩

theorem serve_eq_used {r : Request} {u : Use} (h : c.serve r = (.used u, c')) :
    ∃ form, c.use form = .ok (u, c') := by
  cases r with
  | lookup form | get form =>
    rw [serve] at h
    split at h
    · rename_i w c'' huse
      injection h with hu hc
      injection hu with hu
      subst hu hc
      exact ⟨form, huse⟩
    · injection h with h
      cases h
  | contains name | clear =>
    injection h with h
    cases h

theorem serve_lookup_iff {u : Use} :
    c.serve (.lookup form) = (.used u, c') ↔ c.use form = .ok (u, c') := by
  rw [serve]
  cases c.use form with
  | ok x => simp [Prod.ext_iff]
  | error e => simp

/-- Only a request to clear a cache is answered by its clearance. -/
theorem eq_clear_of_serve {r : Request} (h : c.serve r = (.cleared, c')) : r = .clear := by
  cases r with
  | lookup form | get form =>
    rw [serve] at h
    split at h <;> cases h
  | contains name => cases h
  | clear => rfl

/-- An answer that is no validator and no clearance leaves the cache as it is. -/
theorem eq_of_serve {r : Request} {a : Answer} (h : c.serve r = (a, c'))
    (hused : ∀ u, a ≠ .used u) (hcleared : a ≠ .cleared) : c' = c := by
  cases r with
  | lookup form | get form =>
    rw [serve] at h
    split at h
    · injection h with ha hc
      exact absurd ha.symm (hused _)
    · injection h with ha hc
      exact hc.symm
  | contains name =>
    injection h with ha hc
    exact hc.symm
  | clear =>
    injection h with ha hc
    exact absurd ha.symm hcleared

/-! ## What a request preserves -/

variable {capacity : Count} {uses : List Use} {h : History}

theorem LastBuilt.append {u : Use} (hv : LastBuilt uses name v)
    (hu : u.name = name → u.hit = true) :
    LastBuilt (uses ++ [u]) name v := by
  obtain ⟨before, since, rfl, hsince⟩ := hv
  refine ⟨before, since ++ [u], by simp, fun w hw => ?_⟩
  rcases List.mem_append.mp hw with hw | hw
  · exact hsince w hw
  · rw [List.mem_singleton.mp hw]
    exact hu

theorem LastBuilt.last (uses : List Use) (name : String) (v : Validator) :
    LastBuilt (uses ++ [⟨name, false, v⟩]) name v :=
  ⟨uses, [], rfl, by simp⟩

theorem names_without (name : String) (entries : List (String × Validator)) :
    (without name entries).map (·.1) = (entries.map (·.1)).filter (· != name) := by
  rw [without, List.filter_map]
  rfl

theorem Kept.empty (capacity : Count) : Kept capacity ⟨.empty capacity, []⟩ where
  capacity := rfl
  names := lastNames_nil.symm
  hits := rfl
  misses := rfl
  own := by simp [Cache.empty]
  built := by simp [Cache.empty]

theorem Kept.clear (hk : Kept capacity h) : Kept capacity ⟨h.cache.clear, []⟩ where
  capacity := hk.capacity
  names := lastNames_nil.symm
  hits := rfl
  misses := rfl
  own := by simp [Cache.clear]
  built := by simp [Cache.clear]

/-- The capacity leaves room for one name. -/
theorem Kept.names_succ (hk : Kept capacity h) :
    ∃ n, h.cache.capacity.1 = n + 1 ∧
      h.cache.names = lastNames (n + 1) (h.uses.map Use.name) := by
  obtain ⟨n, hn⟩ := Nat.exists_eq_add_one.mpr capacity.2
  refine ⟨n, by rw [hk.capacity, hn], ?_⟩
  rw [hk.names, hn]

theorem Kept.hit (hk : Kept capacity h) (hv : h.cache.entries.lookup name = some v) :
    Kept capacity ⟨h.cache.hit name v, h.uses ++ [⟨name, true, v⟩]⟩ := by
  have hmem : (name, v) ∈ h.cache.entries := mem_of_lookup hv
  have hname : name ∈ h.cache.names := List.mem_map_of_mem hmem
  refine ⟨hk.capacity, ?_, ?_, ?_, ?_, ?_⟩
  · obtain ⟨n, hn, hnames⟩ := hk.names_succ
    rw [hnames] at hname
    rw [← hk.capacity, hn, List.map_append, List.map_singleton, lastNames_append_of_mem hname,
      ← hnames, Cache.names, Cache.hit, List.map_append, names_without]
    rfl
  · simp [Cache.hit, hk.hits]
  · simp [Cache.hit, hk.misses]
  all_goals
    intro entry hentry
    rcases List.mem_append.mp hentry with hentry | hentry
  · exact hk.own entry (List.mem_of_mem_filter hentry)
  · rw [List.mem_singleton.mp hentry]
    exact hk.own _ hmem
  · exact (hk.built entry (List.mem_of_mem_filter hentry)).append fun _ => rfl
  · rw [List.mem_singleton.mp hentry]
    exact (hk.built _ hmem).append fun _ => rfl

theorem Kept.miss (hk : Kept capacity h) (hname : name ∉ h.cache.names) (hv : v.hash = name) :
    Kept capacity ⟨h.cache.miss name v, h.uses ++ [⟨name, false, v⟩]⟩ := by
  refine ⟨hk.capacity, ?_, ?_, ?_, ?_, ?_⟩
  · obtain ⟨n, hn, hnames⟩ := hk.names_succ
    have hnew := hname
    rw [hnames] at hnew
    rw [← hk.capacity, hn, List.map_append, List.map_singleton, lastNames_append_of_notMem hnew,
      ← hnames, Cache.names, Cache.miss, List.map_append, List.map_drop, hn, Cache.names,
      List.length_map]
    rfl
  · simp [Cache.miss, hk.hits]
  · simp [Cache.miss, hk.misses]
  all_goals
    intro entry hentry
    rcases List.mem_append.mp hentry with hentry | hentry
  · exact hk.own entry (List.mem_of_mem_drop hentry)
  · rw [List.mem_singleton.mp hentry]
    exact hv
  · have hold := List.mem_of_mem_drop hentry
    have hkey : entry.1 ∈ h.cache.names := List.mem_map_of_mem hold
    refine (hk.built entry hold).append fun (heq : name = entry.1) => absurd ?_ hname
    rwa [heq]
  · rw [List.mem_singleton.mp hentry]
    exact LastBuilt.last _ _ _

/-- Every request preserves what a cache holds. -/
theorem Kept.next (hk : Kept capacity h) (r : Request) : Kept capacity (h.next r) := by
  rw [History.next]
  split
  · rename_i u c hserve
    obtain ⟨form, huse⟩ := serve_eq_used hserve
    obtain ⟨hname, hlookup⟩ := use_eq_ok_iff.mp huse
    obtain ⟨name, b, v⟩ := u
    rcases lookup_cases hlookup with ⟨hv, rfl, rfl⟩ | ⟨hnew, hbuild, rfl, rfl⟩
    · exact hk.hit hv
    · rw [build_contentHash hname] at hbuild
      exact hk.miss hnew (hash_of_build hname hbuild)
  · rename_i c hserve
    obtain rfl := eq_clear_of_serve hserve
    injection hserve with _ hc
    rw [← hc]
    exact hk.clear
  · rename_i c hused hcleared hserve
    rw [eq_of_serve hserve hused hcleared]
    exact hk

/-- A cache holds this after any requests. -/
theorem kept_after (capacity : Count) (rs : List Request) :
    Kept capacity (History.after capacity rs) := by
  have hrun : ∀ h, Kept capacity h → Kept capacity (rs.foldl History.next h) := by
    induction rs with
    | nil => exact fun h hk => hk
    | cons r rs ih => exact fun h hk => ih (h.next r) (hk.next r)
  exact hrun _ (Kept.empty capacity)

theorem Kept.hit_iff (hk : Kept capacity h) {u : Use} (huse : h.cache.use form = .ok (u, c')) :
    (u.hit = true ↔ u.name ∈ h.cache.names) ∧
      (u.hit = true → LastBuilt h.uses u.name u.validator) := by
  obtain ⟨-, hlookup⟩ := use_eq_ok_iff.mp huse
  rcases lookup_cases hlookup with ⟨hv, hhit, -⟩ | ⟨hnew, -, hhit, -⟩
  · have hmem := mem_of_lookup hv
    exact ⟨iff_of_true hhit (List.mem_map_of_mem hmem), fun _ => hk.built _ hmem⟩
  · simp [hhit, hnew]

/-- A form of which the name is kept has its validator. -/
theorem exists_use_of_mem (hname : form.contentHash = .ok name) (hmem : name ∈ c.names) :
    ∃ u c', c.use form = .ok (u, c') := by
  cases hv : c.entries.lookup name with
  | none => exact absurd hmem (lookup_eq_none_iff_notMem.mp hv)
  | some v =>
    refine ⟨⟨name, true, v⟩, c.hit name v, use_eq_ok_iff.mpr ⟨hname, ?_⟩⟩
    rw [lookup, hv]

/-- A form of which the name is not kept has the validator that is built of it, as a miss. -/
theorem exists_miss_iff (hname : form.contentHash = .ok name) (hmem : name ∉ c.names) :
    (∃ c', c.serve (.lookup form) = (.used ⟨name, false, v⟩, c')) ↔
      Validator.build form (some name) = .ok v := by
  have hnone : c.entries.lookup name = none := lookup_eq_none_iff_notMem.mpr hmem
  simp only [serve_lookup_iff, use_eq_ok_iff, hname, true_and, lookup, hnone, map_eq_ok_iff]
  constructor
  · rintro ⟨c', w, hbuild, h⟩
    injection h with hv
    exact hv ▸ hbuild
  · exact fun hbuild => ⟨_, v, hbuild, rfl⟩

/-- After any requests a cache keeps the names that were used last, and as many as it has room for,
each with the validator that was built for it last. A lookup is a hit exactly where the name is
kept, and a miss exactly where it is not and a validator can be built. What returns no validator
changes nothing unless it clears the cache. -/
theorem recently_used (capacity : Count) (rs : List Request) :
    let h := History.after capacity rs
    h.cache.names = lastNames capacity.1 (h.uses.map Use.name) ∧
    h.cache.names.Nodup ∧ h.cache.names.length ≤ capacity.1 ∧
    h.cache.hits = h.uses.countP Use.hit ∧ h.cache.hits + h.cache.misses = h.uses.length ∧
    (∀ entry ∈ h.cache.entries, entry.2.hash = entry.1) ∧
    (∀ r u c', h.cache.serve r = (.used u, c') →
      (u.hit = true ↔ u.name ∈ h.cache.names) ∧
      (u.hit = true → LastBuilt h.uses u.name u.validator)) ∧
    (∀ form name, form.contentHash = .ok name → name ∈ h.cache.names →
      ∃ u c', h.cache.serve (.lookup form) = (.used u, c')) ∧
    (∀ form name v, form.contentHash = .ok name → name ∉ h.cache.names →
      ((∃ c', h.cache.serve (.lookup form) = (.used ⟨name, false, v⟩, c')) ↔
        Validator.build form (some name) = .ok v)) ∧
    (∀ r, (∀ u, (h.cache.serve r).1 ≠ .used u) → r ≠ .clear → h.next r = h) := by
  intro h
  have hk : Kept capacity h := kept_after capacity rs
  refine ⟨hk.names, ?_, ?_, hk.hits, ?_, hk.own, ?_, ?_, fun form name v => exists_miss_iff, ?_⟩
  · rw [hk.names]
    exact nodup_lastNames _ _
  · rw [hk.names]
    exact length_lastNames_le _ _
  · rw [hk.hits, hk.misses, List.length_eq_countP_add_countP Use.hit]
    simp
  · intro r u c' hserve
    obtain ⟨form, huse⟩ := serve_eq_used hserve
    exact hk.hit_iff huse
  · intro form name hname hmem
    obtain ⟨u, c', huse⟩ := exists_use_of_mem hname hmem
    exact ⟨u, c', by rw [serve, huse]⟩
  · intro r hused hclear
    rw [History.next]
    split
    · rename_i u c hserve
      exact absurd (congrArg Prod.fst hserve) (hused u)
    · rename_i c hserve
      exact absurd (eq_clear_of_serve hserve) hclear
    · rename_i c hused hcleared hserve
      rw [eq_of_serve hserve hused hcleared]

end Cache

end Formwork
