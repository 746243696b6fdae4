import SealedPost.Proofs.KeyCache.History

/-!
# What pruning takes out of a cache

Pruning takes out the entries whose time has come, each of them and no other, and counts them. That
the count is right and that no entry comes to light from under another rests on one invariant of
all caches: their entries are of different identities. Nothing is asked of the clock between the
calls that a cache has come about by; only while a cache is pruned does it stand still.
-/

namespace SealedPost.KeyCache

variable {ω τ : Type} {c : KeyCache τ}

/-! ### Entries -/

theorem mem_of_find? {identity : String} {e : Entry τ} (h : c.find? identity = some e) :
    (identity, e) ∈ c.entries := by
  obtain ⟨before, after, hentries, -⟩ := List.lookup_eq_some_iff.mp h
  rw [hentries]
  exact List.mem_append_right before List.mem_cons_self

/-- The cache after its entries for some identities are taken out, one after the other. -/
def eraseAll (identities : List String) (c : KeyCache τ) : KeyCache τ :=
  identities.foldl (fun c identity => c.erase identity) c

theorem eraseAll_eq (identities : List String) (c : KeyCache τ) :
    c.eraseAll identities =
      { c with entries := c.entries.filter fun entry => entry.1 ∉ identities } := by
  induction identities generalizing c with
  | nil => simp [eraseAll]
  | cons identity identities ih =>
    simp only [eraseAll, List.foldl_cons] at ih ⊢
    rw [ih, erase]
    simp [List.filter_filter, Bool.and_comm]

/-! ### Caches that have come about by calls -/

section Calls

variable [Add τ] [LinearOrder τ] {directory : KeyDirectory ω} {clock : ω → τ}

/-- Whatever is called, an entry comes into the cache, entries go out of it, or nothing happens. -/
theorem Call.after_cases (call : Call ω) (s : KeyCache τ × ω × List String) :
    (call.after directory clock s).1 = s.1 ∨
    (∃ identity e, (call.after directory clock s).1 = s.1.insert identity e) ∨
    ∃ p, (call.after directory clock s).1 = { s.1 with entries := s.1.entries.filter p } := by
  cases call with
  | ask offered =>
    obtain ⟨c, w, asked⟩ := s
    cases hv : Identity.validate offered with
    | error e => exact .inl (by simp only [Call.after, ask_of_invalid hv])
    | ok identity =>
      obtain ⟨rfl, hi⟩ := Identity.validate_eq_ok_iff.mp hv
      cases hf : c.fresh? (clock w) identity with
      | some key => exact .inl (by simp only [Call.after, ask_of_fresh hi hf])
      | none =>
        simp only [Call.after, ask_of_not_fresh hi hf]
        cases directory.publicKeyFor identity w with
        | error e w' => exact .inl rfl
        | ok found w' =>
          cases hk : Key.check "Public key" Key.size found with
          | error e => exact .inl (by simp only [hk])
          | ok key =>
            exact .inr (.inl ⟨identity, ⟨key, some (clock w' + c.ttl)⟩, by simp only [hk]⟩)
  | pin offered key =>
    cases hp : s.1.pin offered key with
    | error e => exact .inl (by simp only [Call.after, hp])
    | ok c =>
      obtain ⟨identity, bs, -, -, rfl⟩ := exists_of_pin hp
      exact .inr (.inl ⟨identity, ⟨bs, none⟩, by simp only [Call.after, hp]⟩)
  | invalidate offered =>
    rcases s.1.invalidate_cases offered with ⟨identity, -, hi⟩ | hi
    · exact .inr (.inr ⟨_, hi⟩)
    · exact .inl hi
  | clear => exact .inr (.inr ⟨fun _ => false, by simp [Call.after, KeyCache.clear]⟩)
  | prune => exact .inr (.inr ⟨_, rfl⟩)
  | look offered => exact .inl rfl
  | wait next => exact .inl rfl

theorem IsKeyed.after {s : KeyCache τ × ω × List String} (h : s.1.IsKeyed) (call : Call ω) :
    (call.after directory clock s).1.IsKeyed := by
  rcases call.after_cases s with hsame | ⟨identity, e, hinsert⟩ | ⟨p, hfilter⟩
  · rwa [hsame]
  · rw [hinsert]
    exact h.insert identity e
  · rw [hfilter]
    exact h.filter p

/-- The cache, the world and the record after some calls. -/
def Call.afterAll (directory : KeyDirectory ω) (clock : ω → τ)
    (s : KeyCache τ × ω × List String) (calls : List (Call ω)) : KeyCache τ × ω × List String :=
  calls.foldl (Call.after directory clock) s

theorem IsKeyed.afterAll {s : KeyCache τ × ω × List String} (h : s.1.IsKeyed)
    (calls : List (Call ω)) : (Call.afterAll directory clock s calls).1.IsKeyed := by
  induction calls generalizing s with
  | nil => exact h
  | cons call calls ih => exact ih (h.after call)

end Calls

/-! ### Entries whose time has come -/

section Expiry

variable [LinearOrder τ] {now : τ} {identity : String}

/-- Has the time of the entry come? That of a pinned key never does. -/
def Entry.HasExpired (now : τ) (e : Entry τ) : Prop := ∃ t, e.expiresAt = some t ∧ t ≤ now

theorem Entry.isFresh_iff {e : Entry τ} : e.isFresh now = true ↔ ¬ e.HasExpired now := by
  obtain ⟨key, _ | t⟩ := e <;> simp [isFresh, HasExpired]

theorem IsKeyed.find?_prune_iff (h : c.IsKeyed) {e : Entry τ} :
    (c.prune now).2.find? identity = some e ↔
      c.find? identity = some e ∧ ¬ e.HasExpired now := by
  rw [prune, h.find?_filter, Option.filter_eq_some_iff, Entry.isFresh_iff]

/-! ### The entries that are counted -/

/-- The identities whose entries have expired. -/
def expired (now : τ) (c : KeyCache τ) : List String :=
  (c.entries.filter fun entry => !entry.2.isFresh now).map Prod.fst

/-- Only one entry of an identity is there to expire. -/
theorem IsKeyed.mem_expired_iff (h : c.IsKeyed) {entry : String × Entry τ}
    (hm : entry ∈ c.entries) : entry.1 ∈ c.expired now ↔ entry.2.isFresh now = false := by
  simp only [expired, List.mem_map, List.mem_filter, Bool.not_eq_true']
  constructor
  · rintro ⟨other, ⟨hother, hexpired⟩, hsame⟩
    rwa [← List.inj_on_of_nodup_map h hother hm hsame]
  · exact fun hexpired => ⟨entry, ⟨hm, hexpired⟩, rfl⟩

/-- To prune a cache is to go over it twice: what has expired is collected first, and then taken
out and counted. -/
theorem IsKeyed.prune_eq (h : c.IsKeyed) :
    c.prune now = ((c.expired now).length, c.eraseAll (c.expired now)) := by
  -- to erase by identity takes out no other entry, since each identity has one only
  have hkept : (c.entries.filter fun entry => entry.2.isFresh now) =
      c.entries.filter fun entry => entry.1 ∉ c.expired now := by
    apply List.filter_congr
    intro entry hm
    rw [Bool.eq_iff_iff, decide_eq_true_iff, h.mem_expired_iff hm, Bool.not_eq_false]
  have hcount := c.entries.length_eq_length_filter_add fun entry => entry.2.isFresh now
  rw [prune, eraseAll_eq, ← hkept, expired, List.length_map]
  simp only [size, Prod.mk.injEq, and_true]
  omega

/-! ### What is left -/

/-- Does the cache hold fresh entries only? -/
def IsPruned (now : τ) (c : KeyCache τ) : Prop := ∀ entry ∈ c.entries, entry.2.isFresh now = true

theorem isPruned_prune (now : τ) (c : KeyCache τ) : (c.prune now).2.IsPruned now :=
  fun _ hm => (List.mem_filter.mp hm).2

theorem IsPruned.contains_iff (h : c.IsPruned now) :
    c.contains now (.text identity) = true ↔ identity ∈ c.entries.map Prod.fst := by
  have hfound : (c.find? identity).filter (Entry.isFresh now) = c.find? identity := by
    cases hf : c.find? identity with
    | none => rfl
    | some e => rw [Option.filter_some, if_pos (h _ (mem_of_find? hf))]
  rw [contains, fresh?, hfound, Option.isSome_map, find?, List.lookup_isSome_iff, List.mem_map]
  simp only [beq_iff_eq, eq_comm (a := identity)]

/-- A cache that holds fresh entries only answers about as many identities as it has entries. -/
theorem IsPruned.encard_contains (h : c.IsPruned now) (hkeyed : c.IsKeyed) :
    {identity | c.contains now (.text identity) = true}.encard = c.size := by
  have hset : {identity | c.contains now (.text identity) = true} =
      ↑(c.entries.map Prod.fst).toFinset := by
    ext identity
    rw [List.coe_toFinset]
    exact h.contains_iff
  rw [hset, Set.encard_coe_eq_coe_finsetCard, List.toFinset_card_of_nodup hkeyed, List.length_map,
    size]

theorem IsPruned.prune_eq (h : c.IsPruned now) : c.prune now = (0, c) := by
  rw [prune, List.filter_eq_self.mpr h, Nat.sub_self]

end Expiry

/-! ### Pruning -/

/-- What pruning makes of a cache at a time: it takes out what has expired and nothing else, counts
what it takes out, and leaves a cache that answers about the identity of each entry. -/
structure Prunes [LinearOrder τ] (now : τ) (c : KeyCache τ) (count : Nat) (left : KeyCache τ) :
    Prop where
  ttl_eq : left.ttl = c.ttl
  find?_iff : ∀ identity e, left.find? identity = some e ↔
    c.find? identity = some e ∧ ¬ e.HasExpired now
  count_add_size : count + left.size = c.size
  encard_contains :
    {identity | left.contains now (.text identity) = true}.encard = left.size

theorem IsKeyed.prunes [LinearOrder τ] (h : c.IsKeyed) (now : τ) :
    Prunes now c (c.prune now).1 (c.prune now).2 where
  ttl_eq := rfl
  find?_iff := fun _ _ => h.find?_prune_iff
  count_add_size := Nat.sub_add_cancel (List.length_filter_le ..)
  encard_contains := (isPruned_prune now c).encard_contains (h.filter _)

/-- However a cache has come about, and whatever the time is: pruning takes out the entries that
have expired, keeps all others as they are, and gives their number, which is that of the identities
collected in a first pass and erased in a second. The directory and the world have no part in it.
To prune once more at the same time changes nothing. -/
theorem prunes_after_calls [Add τ] [LinearOrder τ] (directory : KeyDirectory ω) (clock : ω → τ)
    (ttl : τ) (w : ω) (calls : List (Call ω)) :
    let s := Call.afterAll directory clock (empty ttl, w, []) calls
    (∀ now, Prunes now s.1 (s.1.prune now).1 (s.1.prune now).2 ∧
      s.1.prune now = ((s.1.expired now).length, s.1.eraseAll (s.1.expired now)) ∧
      (s.1.prune now).2.prune now = (0, (s.1.prune now).2)) ∧
    Call.prune.after directory clock s = ((s.1.prune (clock s.2.1)).2, s.2) := by
  intro s
  have hkeyed : s.1.IsKeyed := (isKeyed_empty ttl).afterAll calls
  exact ⟨fun now => ⟨hkeyed.prunes now, hkeyed.prune_eq, (isPruned_prune now s.1).prune_eq⟩, rfl⟩

end SealedPost.KeyCache
