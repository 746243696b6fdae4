import SealedPost.KeyCache
import SealedPost.Proofs.Config

/-!
# Caches that hold only what is known

A cache is true to what is known of keys when every entry in it, fresh or not, is known to be right.
Whatever is done with such a cache, and whatever the clock says, it stays true as long as only known
keys come into it, and then it answers with them.
-/

namespace SealedPost.KeyCache

variable {ω τ : Type} {known : String → Bytes → Prop} {c : KeyCache τ}

/-- Is every entry known to be right? -/
def IsTrue (known : String → Bytes → Prop) (c : KeyCache τ) : Prop :=
  ∀ entry ∈ c.entries, known entry.1 entry.2.key

/-! ### What is done with a cache -/

theorem IsTrue.filter (h : c.IsTrue known) (p : String × Entry τ → Bool) :
    IsTrue known { c with entries := c.entries.filter p } :=
  fun entry hm => h entry (List.mem_filter.mp hm).1

theorem IsTrue.insert {identity : String} {e : Entry τ} (h : c.IsTrue known)
    (hk : known identity e.key) : (c.insert identity e).IsTrue known := by
  intro entry hm
  rcases List.mem_cons.mp hm with rfl | hm
  · exact hk
  · exact h.filter _ entry hm

/-- What is pinned is an identity and octets; they are all that changes. -/
theorem exists_of_pin {offered : Identity.Candidate} {key : Material} {c' : KeyCache τ}
    (hp : c.pin offered key = .ok c') :
    ∃ identity bs, offered = .text identity ∧ key = .octets bs ∧
      c' = c.insert identity ⟨bs, none⟩ := by
  obtain ⟨identity, hi, hp⟩ := Check.bind_eq_ok_iff.mp hp
  obtain ⟨bs, hk, hp⟩ := Check.bind_eq_ok_iff.mp hp
  cases hp
  exact ⟨identity, bs, (Identity.validate_eq_ok_iff.mp hi).1, (Key.check_eq_ok_iff.mp hk).1, rfl⟩

theorem IsTrue.pin {identity : String} {key : Bytes} {c' : KeyCache τ} (h : c.IsTrue known)
    (hk : known identity key) (hp : c.pin (.text identity) (.octets key) = .ok c') :
    c'.IsTrue known ∧ c'.ttl = c.ttl := by
  obtain ⟨_, _, hi, hkey, rfl⟩ := exists_of_pin hp
  cases hi
  cases hkey
  exact ⟨h.insert hk, rfl⟩

/-- To invalidate is to erase an identity, or nothing. -/
theorem invalidate_cases (offered : Identity.Candidate) (c : KeyCache τ) :
    (∃ identity, offered = .text identity ∧ c.invalidate offered = c.erase identity) ∨
      c.invalidate offered = c := by
  cases offered with
  | text identity => exact .inl ⟨identity, rfl, rfl⟩
  | absent => exact .inr rfl
  | flag b => exact .inr rfl
  | number n => exact .inr rfl
  | other s => exact .inr rfl

theorem IsTrue.invalidate (h : c.IsTrue known) (offered : Identity.Candidate) :
    (c.invalidate offered).IsTrue known := by
  rcases c.invalidate_cases offered with ⟨identity, -, hi⟩ | hi
  · rw [hi]
    exact h.filter _
  · rwa [hi]

@[simp] theorem ttl_invalidate (offered : Identity.Candidate) (c : KeyCache τ) :
    (c.invalidate offered).ttl = c.ttl := by
  cases offered <;> rfl

theorem isTrue_clear (known : String → Bytes → Prop) (c : KeyCache τ) : c.clear.IsTrue known :=
  fun _ hm => nomatch hm

/-! ### Pinned keys -/

/-- Is this key kept for the identity, for ever? -/
def Pins (identity : String) (key : Bytes) (c : KeyCache τ) : Prop :=
  c.find? identity = some ⟨key, none⟩

section Pins

variable {identity other : String} {key : Bytes}

/-- A pinned key is there as long as its entry is not taken out. -/
theorem Pins.filter (h : c.Pins identity key) {p : String × Entry τ → Bool}
    (hp : p (identity, ⟨key, none⟩) = true) :
    Pins identity key { c with entries := c.entries.filter p } := by
  obtain ⟨before, after, hentries, hbefore⟩ := List.lookup_eq_some_iff.mp h
  refine List.lookup_eq_some_iff.mpr ⟨before.filter p, after.filter p, ?_, ?_⟩
  · rw [hentries, List.filter_append, List.filter_cons_of_pos hp]
  · exact fun entry hm => hbefore entry (List.mem_filter.mp hm).1

theorem Pins.insert_of_ne (h : c.Pins identity key) (hne : other ≠ identity) (e : Entry τ) :
    (c.insert other e).Pins identity key := by
  rw [Pins, find?, KeyCache.insert, List.lookup_cons, beq_eq_false_iff_ne.mpr hne.symm]
  exact h.filter (decide_eq_true hne.symm)

/-- Another identity is pinned, or nothing. -/
theorem Pins.pin (h : c.Pins identity key) {offered : Identity.Candidate} {m : Material}
    {c' : KeyCache τ} (hp : c.pin offered m = .ok c')
    (hother : offered = .text identity → ∃ e, Key.check "Public key" Key.size m = .error e) :
    c'.Pins identity key := by
  obtain ⟨other, hv, hp⟩ := Check.bind_eq_ok_iff.mp hp
  obtain ⟨bs, hk, hp⟩ := Check.bind_eq_ok_iff.mp hp
  cases hp
  apply h.insert_of_ne
  rintro rfl
  obtain ⟨e, he⟩ := hother (Identity.validate_eq_ok_iff.mp hv).1
  cases hk.symm.trans he

theorem Pins.invalidate_of_ne (h : c.Pins identity key) {offered : Identity.Candidate}
    (hne : offered ≠ .text identity) : (c.invalidate offered).Pins identity key := by
  rcases c.invalidate_cases offered with ⟨other, ho, hi⟩ | hi
  · rw [hi]
    exact h.filter (decide_eq_true fun he => hne (ho.trans (congrArg _ he.symm)))
  · rwa [hi]

theorem pins_of_pin {c' : KeyCache τ} (hp : c.pin (.text identity) (.octets key) = .ok c') :
    c'.Pins identity key := by
  obtain ⟨_, _, hi, hkey, rfl⟩ := exists_of_pin hp
  cases hi
  cases hkey
  rw [Pins, find?, KeyCache.insert, List.lookup_cons_self]

end Pins

/-! ### Lookups -/

variable [LE τ] [DecidableLE τ] {now : τ} {identity : String} {key : Bytes}

theorem IsTrue.prune (h : c.IsTrue known) (now : τ) : (c.prune now).2.IsTrue known :=
  h.filter _

theorem Pins.prune (h : c.Pins identity key) (now : τ) : (c.prune now).2.Pins identity key :=
  h.filter rfl

theorem Pins.fresh?_eq (h : c.Pins identity key) (now : τ) : c.fresh? now identity = some key := by
  rw [fresh?, h]
  rfl

theorem IsTrue.of_fresh? (h : c.IsTrue known) (hf : c.fresh? now identity = some key) :
    known identity key := by
  obtain ⟨e, he, rfl⟩ := Option.map_eq_some_iff.mp hf
  obtain ⟨hfind, -⟩ := Option.filter_eq_some_iff.mp he
  obtain ⟨before, after, hentries, -⟩ := List.lookup_eq_some_iff.mp hfind
  exact h (identity, e) (by rw [hentries]; simp)

section Asking

variable [PartialAdd τ] {directory : KeyDirectory ω} {clock : ω → τ} {w : ω}

/-- A fresh key is the answer, and nothing else happens. -/
theorem publicKeyFor_of_fresh (hi : Identity.isWellFormed identity = true)
    (hf : c.fresh? (clock w) identity = some key) :
    publicKeyFor directory clock (.text identity) (c, w) = .ok key (c, w) := by
  simp only [publicKeyFor, Identity.validate_text hi, hf]

/-- Where no key is fresh the directory is asked. Its key comes into the cache or nothing does. -/
theorem publicKeyFor_endsIn {D : Material → ω → Prop} {E : ω → Prop}
    (hi : Identity.isWellFormed identity = true) (hf : c.fresh? (clock w) identity = none)
    (hd : (directory.publicKeyFor identity).EndsIn w D E) :
    Action.EndsIn (publicKeyFor directory clock (.text identity)) (c, w)
      (fun key cw => D (.octets key) cw.2 ∧ ∃ t, cw.1 = c.insert identity ⟨key, some t⟩)
      fun cw => cw.1 = c ∧ (E cw.2 ∨ ∃ m, D m cw.2) := by
  cases hask : directory.publicKeyFor identity w with
  | error e w' =>
    have hrun : publicKeyFor directory clock (.text identity) (c, w) = .error e (c, w') := by
      simp only [publicKeyFor, Identity.validate_text hi, hf, hask]
    rw [Action.endsIn_of_error hrun]
    exact ⟨rfl, .inl (hd.error hask)⟩
  | ok m w' =>
    cases he : Entry.ofLookup (clock w') c.ttl m with
    | error e =>
      have hrun : publicKeyFor directory clock (.text identity) (c, w) = .error e (c, w') := by
        simp only [publicKeyFor, Identity.validate_text hi, hf, hask, he]
      rw [Action.endsIn_of_error hrun]
      exact ⟨rfl, .inr ⟨m, hd.ok hask⟩⟩
    | ok entry =>
      have hrun : publicKeyFor directory clock (.text identity) (c, w) =
          .ok entry.key (c.insert identity entry, w') := by
        simp only [publicKeyFor, Identity.validate_text hi, hf, hask, he]
      rw [Action.endsIn_of_ok hrun]
      obtain ⟨bs, hkey, he⟩ := Check.bind_eq_ok_iff.mp he
      obtain ⟨t, -, he⟩ := Check.bind_eq_ok_iff.mp he
      cases he
      cases (Key.check_eq_ok_iff.mp hkey).1
      exact ⟨hd.ok hask, t, rfl⟩

end Asking

/-- Where the one known key of an identity is looked up as well, a true cache answers with it and
stays true, whatever is fresh. -/
theorem publicKeyFor_yields [PartialAdd τ] {directory : KeyDirectory ω} {clock : ω → τ}
    {w : ω} {P : ω → Prop} (hi : Identity.isWellFormed identity = true) (hc : c.IsTrue known)
    (hk : known identity key) (hunique : ∀ other, known identity other → other = key)
    (hl : key.length = Key.size) (hw : P w)
    (hd : (directory.publicKeyFor identity).Yields w fun m w' => m = .octets key ∧ P w')
    (hclock : ∀ w, ∃ t, add? (clock w) c.ttl = some t) :
    Action.Yields (publicKeyFor directory clock (.text identity)) (c, w) fun found cw =>
      found = key ∧ cw.1.IsTrue known ∧ cw.1.ttl = c.ttl ∧ P cw.2 := by
  cases hf : c.fresh? (clock w) identity with
  | some found =>
    have hfound : found = key := hunique found (hc.of_fresh? hf)
    exact ⟨found, (c, w), publicKeyFor_of_fresh hi hf, hfound, hc, rfl, hw⟩
  | none =>
    obtain ⟨_, w', hlookup, rfl, hw'⟩ := hd
    obtain ⟨t, ht⟩ := hclock w'
    have he : Entry.ofLookup (clock w') c.ttl (.octets key) = .ok ⟨key, some t⟩ := by
      rw [Entry.ofLookup, Key.check_eq_ok_iff.mpr ⟨rfl, by simp [hl]⟩]
      simp only [bind, Except.bind, later, ht]
      rfl
    refine ⟨key, (c.insert identity ⟨key, some t⟩, w'), ?_, rfl, hc.insert hk, rfl, hw'⟩
    simp only [publicKeyFor, Identity.validate_text hi, hf, hlookup, he]

end SealedPost.KeyCache
