import SealedPost.Proofs.KeyCache

/-!
# What a cache answers

The history of a cache says what it answers. What matters for an identity is the last mark that
concerns it: a pinned key is the answer for ever, a fetched key until its time to live has passed,
and where the identity was forgotten, or was never marked, there is no answer and the directory is
asked. Entries that have expired but are still there, and the moments at which they are pruned, have
no part in this.

Times are of any type with a sum and a linear order.
-/

namespace SealedPost.KeyCache

variable {ω τ : Type}

/-! ### Entries one by one -/

/-- Are the entries of different identities? -/
def IsKeyed (c : KeyCache τ) : Prop := (c.entries.map Prod.fst).Nodup

theorem isKeyed_empty (ttl : τ) : (empty ttl).IsKeyed := List.nodup_nil

theorem IsKeyed.filter {c : KeyCache τ} (h : c.IsKeyed) (p : String × Entry τ → Bool) :
    IsKeyed { c with entries := c.entries.filter p } :=
  h.sublist (List.filter_sublist.map Prod.fst)

theorem IsKeyed.insert {c : KeyCache τ} (h : c.IsKeyed) (identity : String) (e : Entry τ) :
    (c.insert identity e).IsKeyed := by
  refine List.nodup_cons.mpr ⟨?_, h.filter _⟩
  rintro hm
  obtain ⟨entry, hentry, rfl⟩ := List.mem_map.mp hm
  simpa using (List.mem_filter.mp hentry).2

/-- What is kept of a cache is kept of each entry; no earlier entry of the identity comes to
light. -/
theorem IsKeyed.find?_filter {c : KeyCache τ} (h : c.IsKeyed) (p : String × Entry τ → Bool)
    (identity : String) :
    find? { c with entries := c.entries.filter p } identity =
      (c.find? identity).filter fun e => p (identity, e) := by
  obtain ⟨ttl, entries⟩ := c
  simp only [find?, IsKeyed] at h ⊢
  induction entries with
  | nil => rfl
  | cons entry entries ih =>
    obtain ⟨k, e⟩ := entry
    rw [List.map_cons, List.nodup_cons] at h
    by_cases hk : identity = k
    · subst hk
      rw [List.lookup_cons_self, Option.filter_some]
      by_cases hp : p (identity, e) = true
      · rw [List.filter_cons_of_pos hp, List.lookup_cons_self, if_pos hp]
      · rw [List.filter_cons_of_neg hp, if_neg hp, List.lookup_eq_none_iff]
        intro other hother
        rw [bne_iff_ne]
        intro hsame
        exact h.1 (List.mem_map.mpr ⟨other, (List.mem_filter.mp hother).1, hsame.symm⟩)
    · have hne : (identity == k) = false := beq_eq_false_iff_ne.mpr hk
      rw [List.lookup_cons, hne, List.filter_cons]
      split
      · rw [List.lookup_cons, hne]
        exact ih h.2
      · exact ih h.2

variable {c : KeyCache τ}

theorem IsKeyed.find?_erase (h : c.IsKeyed) (identity other : String) :
    (c.erase identity).find? other = if other = identity then none else c.find? other := by
  rw [erase, h.find?_filter]
  cases c.find? other <;> simp [Option.filter_some]

theorem IsKeyed.find?_insert (h : c.IsKeyed) (identity other : String) (e : Entry τ) :
    (c.insert identity e).find? other = if other = identity then some e else c.find? other := by
  have hrest := h.find?_erase identity other
  simp only [find?, KeyCache.insert, erase] at hrest ⊢
  by_cases hother : other = identity
  · subst hother
    rw [List.lookup_cons_self, if_pos rfl]
  · rw [if_neg hother] at hrest ⊢
    rw [List.lookup_cons, beq_eq_false_iff_ne.mpr hother]
    exact hrest

/-! ### Fresh entries -/

section Fresh

variable [LinearOrder τ] {now later : τ} {identity other : String}

theorem IsKeyed.fresh?_erase (h : c.IsKeyed) :
    (c.erase identity).fresh? now other =
      if other = identity then none else c.fresh? now other := by
  rw [fresh?, h.find?_erase]
  split <;> rfl

theorem IsKeyed.fresh?_insert (h : c.IsKeyed) (e : Entry τ) :
    (c.insert identity e).fresh? now other =
      if other = identity then (if e.isFresh now then some e.key else none)
      else c.fresh? now other := by
  rw [fresh?, h.find?_insert]
  split
  · rw [Option.filter_some]
    split <;> rfl
  · rfl

theorem Entry.isFresh_mono {e : Entry τ} (h : now ≤ later) (hf : e.isFresh later = true) :
    e.isFresh now = true := by
  obtain ⟨key, _ | t⟩ := e
  · rfl
  · simp only [isFresh, Bool.not_eq_true', decide_eq_false_iff_not, not_le] at hf ⊢
    exact h.trans_lt hf

/-- An entry that is pruned would not have been fresh again. -/
theorem IsKeyed.fresh?_prune (h : c.IsKeyed) (hn : now ≤ later) :
    (c.prune now).2.fresh? later identity = c.fresh? later identity := by
  have hall : ∀ e : Entry τ, (e.isFresh now && e.isFresh later) = e.isFresh later := fun e => by
    cases hf : e.isFresh later with
    | false => exact Bool.and_false _
    | true => rw [e.isFresh_mono hn hf, Bool.and_self]
  rw [fresh?, prune, h.find?_filter]
  simp only [Option.filter_filter, hall]
  rfl

end Fresh

/-! ### Histories -/

/-- What has become known of the key of an identity, or of the keys of all. -/
inductive Mark (τ : Type) where
  | fetched (identity : String) (key : Bytes) (time : τ)
  | pinned (identity : String) (key : Bytes)
  | forgotten (identity : String)
  | cleared

def Mark.concerns (identity : String) : Mark τ → Bool
  | .fetched marked _ _ => marked = identity
  | .pinned marked _    => marked = identity
  | .forgotten marked   => marked = identity
  | .cleared            => true

section Answers

variable [Add τ] [LinearOrder τ] {ttl now later : τ} {identity : String} {history : List (Mark τ)}

/-- The key that a mark gives at a time to those it concerns. -/
def Mark.key? (ttl now : τ) : Mark τ → Option Bytes
  | .fetched _ key time => if now < time + ttl then some key else none
  | .pinned _ key       => some key
  | .forgotten _        => none
  | .cleared            => none

/-- The key that a history, latest mark first, has for an identity at a time. -/
def answer? (ttl now : τ) (identity : String) (history : List (Mark τ)) : Option Bytes :=
  (history.find? (Mark.concerns identity)).bind (Mark.key? ttl now)

theorem answer?_cons (m : Mark τ) (history : List (Mark τ)) :
    answer? ttl now identity (m :: history) =
      if m.concerns identity then m.key? ttl now else answer? ttl now identity history := by
  rw [answer?, List.find?_cons]
  cases m.concerns identity <;> rfl

end Answers

/-! ### Runs -/

/-- What is done with a cache. Between the calls the world goes on to another one. -/
inductive Call (ω : Type) where
  | ask (offered : Identity.Candidate)
  | pin (offered : Identity.Candidate) (key : Material)
  | invalidate (offered : Identity.Candidate)
  | clear
  | prune
  | look (offered : Identity.Candidate)
  | wait (next : ω)

variable [Add τ] [LinearOrder τ] (directory : KeyDirectory ω) (clock : ω → τ)

/-- Asks a cache for a key, with a record of what the directory is asked for. -/
def ask (offered : Identity.Candidate) : EStateM Failure (KeyCache τ × ω × List String) Bytes :=
  publicKeyFor directory.recorded (clock ∘ Prod.fst) offered

/-- The cache, the world and the record after a call, whether it fails or not. -/
def Call.after (s : KeyCache τ × ω × List String) : Call ω → KeyCache τ × ω × List String
  | .ask offered =>
    match KeyCache.ask directory clock offered s with
    | .ok _ next    => next
    | .error _ next => next
  | .pin offered key =>
    match s.1.pin offered key with
    | .ok c    => (c, s.2)
    | .error _ => s
  | .invalidate offered => (s.1.invalidate offered, s.2)
  | .clear              => (s.1.clear, s.2)
  | .prune              => ((s.1.prune (clock s.2.1)).2, s.2)
  | .look _             => s
  | .wait next          => (s.1, next, s.2.2)

/-- The mark that a call leaves: a key was fetched if the directory was asked for it and the call
did not fail. -/
def Call.mark? (s : KeyCache τ × ω × List String) : Call ω → Option (Mark τ)
  | .ask (.text identity) =>
    match KeyCache.ask directory clock (.text identity) s with
    | .ok key next =>
      if next.2.2 = s.2.2 then none else some (.fetched identity key (clock next.2.1))
    | .error _ _ => none
  | .pin (.text identity) (.octets key) =>
    match s.1.pin (.text identity) (.octets key) with
    | .ok _    => some (.pinned identity key)
    | .error _ => none
  | .invalidate (.text identity) => some (.forgotten identity)
  | .clear                       => some .cleared
  | _                            => none

/-- The states that an empty cache comes to, each with its history, while the clock does not go
back. -/
inductive Run (ttl : τ) : List (Mark τ) → KeyCache τ × ω × List String → Prop where
  | start (w : ω) : Run ttl [] (empty ttl, w, [])
  | step {history : List (Mark τ)} {s : KeyCache τ × ω × List String} (h : Run ttl history s)
      (call : Call ω) (hclock : clock s.2.1 ≤ clock (call.after directory clock s).2.1) :
      Run ttl ((call.mark? directory clock s).toList ++ history) (call.after directory clock s)

/-! ### Asking -/

section Asking

variable {directory clock} {c : KeyCache τ} {w : ω} {asked : List String} {identity : String}

theorem ask_of_invalid {offered : Identity.Candidate} {e : Failure}
    (h : Identity.validate offered = .error e) (s : KeyCache τ × ω × List String) :
    ask directory clock offered s = .error e s := by
  simp only [ask, publicKeyFor, h]

theorem ask_of_fresh {key : Bytes} (hi : Identity.isWellFormed identity = true)
    (hf : c.fresh? (clock w) identity = some key) :
    ask directory clock (.text identity) (c, w, asked) = .ok key (c, w, asked) :=
  publicKeyFor_of_fresh hi hf

/-- Where no entry is fresh the directory is asked once, and only a key of the right length is
stored. -/
theorem ask_of_not_fresh (hi : Identity.isWellFormed identity = true)
    (hf : c.fresh? (clock w) identity = none) :
    ask directory clock (.text identity) (c, w, asked) =
      match directory.publicKeyFor identity w with
      | .error e w  => .error e (c, w, asked ++ [identity])
      | .ok found w =>
        match Key.check "Public key" Key.size found with
        | .error e => .error e (c, w, asked ++ [identity])
        | .ok key  =>
          .ok key (c.insert identity ⟨key, some (clock w + c.ttl)⟩, w, asked ++ [identity]) := by
  simp only [ask, publicKeyFor, Identity.validate_text hi, Function.comp_apply, hf,
    KeyDirectory.recorded, Action.noting]
  cases directory.publicKeyFor identity w with
  | error e w => rfl
  | ok found w =>
    simp only [Entry.ofLookup, later, add?_eq_some]
    cases Key.check "Public key" Key.size found <;> rfl

end Asking

/-! ### Caches and histories -/

/-- A cache that has, from now on, a fresh entry for each identity exactly while the history has
an answer. -/
structure Agrees (ttl now : τ) (history : List (Mark τ)) (c : KeyCache τ) : Prop where
  ttl_eq : c.ttl = ttl
  isKeyed : c.IsKeyed
  fresh?_eq : ∀ later, now ≤ later → ∀ identity,
    c.fresh? later identity = answer? ttl later identity history

section Agrees

variable {ttl now next : τ} {history : List (Mark τ)} {c : KeyCache τ} {identity : String}
  {key : Bytes}

theorem agrees_empty (ttl now : τ) : Agrees ttl now [] (empty ttl) :=
  ⟨rfl, isKeyed_empty ttl, fun _ _ _ => rfl⟩

theorem Agrees.mono (h : Agrees ttl now history c) (hn : now ≤ next) : Agrees ttl next history c :=
  ⟨h.ttl_eq, h.isKeyed, fun later hl => h.fresh?_eq later (hn.trans hl)⟩

/-- An entry that lasts as long as a mark is put in with it. -/
theorem Agrees.insert {e : Entry τ} {m : Mark τ} (h : Agrees ttl now history c)
    (hm : ∀ other, m.concerns other = decide (other = identity))
    (hk : ∀ later, m.key? ttl later = if e.isFresh later then some e.key else none) :
    Agrees ttl now (m :: history) (c.insert identity e) := by
  refine ⟨h.ttl_eq, h.isKeyed.insert identity e, fun later hl other => ?_⟩
  rw [h.isKeyed.fresh?_insert, answer?_cons, hm, hk, h.fresh?_eq later hl]
  simp only [decide_eq_true_eq]

theorem Agrees.fetched (h : Agrees ttl now history c) (time : τ) :
    Agrees ttl now (.fetched identity key time :: history)
      (c.insert identity ⟨key, some (time + c.ttl)⟩) := by
  refine h.insert (fun other => by simp [Mark.concerns, eq_comm]) fun later => ?_
  simp [Mark.key?, Entry.isFresh, h.ttl_eq]

theorem Agrees.pinned (h : Agrees ttl now history c) :
    Agrees ttl now (.pinned identity key :: history) (c.insert identity ⟨key, none⟩) :=
  h.insert (fun other => by simp [Mark.concerns, eq_comm]) fun _ => rfl

theorem Agrees.forgotten (h : Agrees ttl now history c) :
    Agrees ttl now (.forgotten identity :: history) (c.erase identity) := by
  refine ⟨h.ttl_eq, h.isKeyed.filter _, fun later hl other => ?_⟩
  rw [h.isKeyed.fresh?_erase, answer?_cons, h.fresh?_eq later hl]
  simp [Mark.concerns, Mark.key?, eq_comm]

theorem Agrees.cleared (h : Agrees ttl now history c) :
    Agrees ttl now (.cleared :: history) c.clear :=
  ⟨h.ttl_eq, List.nodup_nil, fun _ _ _ => rfl⟩

theorem Agrees.prune (h : Agrees ttl now history c) : Agrees ttl now history (c.prune now).2 :=
  ⟨h.ttl_eq, h.isKeyed.filter _, fun later hl _ =>
    (h.isKeyed.fresh?_prune hl).trans (h.fresh?_eq later hl _)⟩

end Agrees

/-! ### Steps and runs -/

section Runs

variable {directory clock} {ttl : τ} {history : List (Mark τ)}
  {s : KeyCache τ × ω × List String} {identity : String}

/-- A cache that is asked goes on agreeing, with the mark of what was fetched if the directory had
to be asked and its key is of the right length. -/
theorem Agrees.ask (h : Agrees ttl (clock s.2.1) history s.1) (offered : Identity.Candidate)
    (hclock : clock s.2.1 ≤ clock ((Call.ask offered).after directory clock s).2.1) :
    Agrees ttl (clock ((Call.ask offered).after directory clock s).2.1)
      (((Call.ask offered).mark? directory clock s).toList ++ history)
      ((Call.ask offered).after directory clock s).1 := by
  obtain ⟨c, w, asked⟩ := s
  cases hv : Identity.validate offered with
  | error e =>
    have hasked : KeyCache.ask directory clock offered (c, w, asked) = .error e (c, w, asked) :=
      ask_of_invalid hv _
    have hmark : (Call.ask offered).mark? directory clock (c, w, asked) = none := by
      cases offered <;> simp only [Call.mark?, hasked]
    simp only [Call.after, hasked, hmark]
    exact h
  | ok identity =>
    obtain ⟨rfl, hi⟩ := Identity.validate_eq_ok_iff.mp hv
    cases hf : c.fresh? (clock w) identity with
    | some key =>
      simp only [Call.after, Call.mark?, ask_of_fresh hi hf, if_true]
      exact h
    | none =>
      have hasked : KeyCache.ask directory clock (.text identity) (c, w, asked) = _ :=
        ask_of_not_fresh hi hf
      simp only [Call.after, Call.mark?, hasked] at hclock ⊢
      cases hd : directory.publicKeyFor identity w with
      | error e w' =>
        simp only [hd] at hclock ⊢
        exact h.mono hclock
      | ok found w' =>
        simp only [hd] at hclock ⊢
        cases hk : Key.check "Public key" Key.size found with
        | error e =>
          simp only [hk] at hclock ⊢
          exact h.mono hclock
        | ok key =>
          simp only [hk, List.append_right_eq_self, List.cons_ne_nil, if_false] at hclock ⊢
          exact (h.mono hclock).fetched (clock w')

theorem Agrees.after (h : Agrees ttl (clock s.2.1) history s.1) (call : Call ω)
    (hclock : clock s.2.1 ≤ clock (call.after directory clock s).2.1) :
    Agrees ttl (clock (call.after directory clock s).2.1)
      ((call.mark? directory clock s).toList ++ history) (call.after directory clock s).1 := by
  cases call with
  | ask offered => exact h.ask offered hclock
  | pin offered key =>
    cases hp : s.1.pin offered key with
    | error e =>
      have hmark : (Call.pin offered key).mark? directory clock s = none := by
        cases offered <;> cases key <;> simp only [Call.mark?, hp]
      simp only [Call.after, hp, hmark]
      exact h
    | ok c =>
      obtain ⟨identity, bs, rfl, rfl, rfl⟩ := exists_of_pin hp
      simp only [Call.after, Call.mark?, hp]
      exact h.pinned
  | invalidate offered =>
    cases offered with
    | text identity => exact h.forgotten
    | absent => exact h
    | flag b => exact h
    | number n => exact h
    | other s => exact h
  | clear => exact h.cleared
  | prune => exact h.prune
  | look offered => exact h
  | wait next => exact h.mono hclock

theorem Run.agrees (h : Run directory clock ttl history s) :
    Agrees ttl (clock s.2.1) history s.1 := by
  induction h with
  | start w => exact agrees_empty ttl (clock w)
  | step h call hclock ih => exact ih.after call hclock

/-! ### Answers -/

/-- The answers of a cache about an identity, in a world, are those of a history: with an answer in
it the cache answers without the directory; without one the directory is asked once, its key is
returned and stored if it has the right length, and any other outcome is a failure that leaves the
entries as they were. -/
structure Follows (directory : KeyDirectory ω) (clock : ω → τ) (identity : String)
    (answer : Option Bytes) (s : KeyCache τ × ω × List String) : Prop where
  known : ∀ key, answer = some key → ask directory clock (.text identity) s = .ok key s
  fetched : answer = none → ∀ key w, key.length = Key.size →
    directory.publicKeyFor identity s.2.1 = .ok (.octets key) w →
    ask directory clock (.text identity) s =
      .ok key (s.1.insert identity ⟨key, some (clock w + s.1.ttl)⟩, w, s.2.2 ++ [identity])
  refused : answer = none → ∀ found w e, Key.check "Public key" Key.size found = .error e →
    directory.publicKeyFor identity s.2.1 = .ok found w →
    ask directory clock (.text identity) s = .error e (s.1, w, s.2.2 ++ [identity])
  failed : answer = none → ∀ e w, directory.publicKeyFor identity s.2.1 = .error e w →
    ask directory clock (.text identity) s = .error e (s.1, w, s.2.2 ++ [identity])
  contains_eq : s.1.contains (clock s.2.1) (.text identity) = answer.isSome

theorem Agrees.follows (h : Agrees ttl (clock s.2.1) history s.1)
    (hi : Identity.isWellFormed identity = true) :
    Follows directory clock identity (answer? ttl (clock s.2.1) identity history) s := by
  rw [← h.fresh?_eq _ le_rfl]
  refine ⟨fun key hf => ask_of_fresh hi hf, fun hf key w hl hd => ?_, fun hf found w e hk hd => ?_,
    fun hf e w hd => ?_, rfl⟩
  · have hk : Key.check "Public key" Key.size (.octets key) = .ok key :=
      Key.check_eq_ok_iff.mpr ⟨rfl, by simp [hl]⟩
    rw [ask_of_not_fresh hi hf, hd]
    simp only [hk]
  · rw [ask_of_not_fresh hi hf, hd]
    simp only [hk]
  · rw [ask_of_not_fresh hi hf, hd]

/-! ### Calls that are none of an identity's -/

/-- Is the call about another identity, or none that marks anything? -/
def Call.IsAside (identity : String) : Call ω → Prop
  | .ask offered        => offered ≠ .text identity
  | .pin offered _      => offered ≠ .text identity
  | .invalidate offered => offered ≠ .text identity
  | .clear              => False
  | .prune              => True
  | .look _             => True
  | .wait _             => True

theorem Call.IsAside.concerns_eq_false {call : Call ω} (h : call.IsAside identity) {m : Mark τ}
    (hm : call.mark? directory clock s = some m) : m.concerns identity = false := by
  have hother : ∀ {other}, Identity.Candidate.text other ≠ .text identity →
      decide (other = identity) = false := fun hne => decide_eq_false fun he => hne (he ▸ rfl)
  cases call with
  | ask offered =>
    cases offered with
    | text other =>
      simp only [Call.mark?] at hm
      split at hm
      · split at hm
        · cases hm
        · cases hm
          exact hother h
      · cases hm
    | absent => cases hm
    | flag b => cases hm
    | number n => cases hm
    | other s => cases hm
  | pin offered key =>
    cases hp : s.1.pin offered key with
    | error e => cases offered <;> cases key <;> simp [Call.mark?, hp] at hm
    | ok c =>
      obtain ⟨other, bs, rfl, rfl, -⟩ := exists_of_pin hp
      simp only [Call.mark?, hp] at hm
      cases hm
      exact hother h
  | invalidate offered =>
    cases offered with
    | text other =>
      cases hm
      exact hother h
    | absent => cases hm
    | flag b => cases hm
    | number n => cases hm
    | other s => cases hm
  | clear => exact h.elim
  | prune => cases hm
  | look offered => cases hm
  | wait next => cases hm

theorem Call.IsAside.answer?_eq {call : Call ω} (h : call.IsAside identity) (now : τ) :
    answer? ttl now identity ((call.mark? directory clock s).toList ++ history) =
      answer? ttl now identity history := by
  cases hm : call.mark? directory clock s with
  | none => rfl
  | some m =>
    rw [Option.toList_some, List.singleton_append, answer?_cons, h.concerns_eq_false hm]
    rfl

/-- However a cache has come about, what it answers about an identity is what its history says,
and it goes on saying so whatever is pruned or done about other identities. -/
theorem follows_of_run (h : Run directory clock ttl history s)
    (hi : Identity.isWellFormed identity = true) :
    Follows directory clock identity (answer? ttl (clock s.2.1) identity history) s ∧
      ∀ call : Call ω, call.IsAside identity →
        clock s.2.1 ≤ clock (call.after directory clock s).2.1 →
        Follows directory clock identity
          (answer? ttl (clock (call.after directory clock s).2.1) identity history)
          (call.after directory clock s) := by
  refine ⟨h.agrees.follows hi, fun call haside hclock => ?_⟩
  have hfollows : Follows directory clock identity _ _ := (h.step call hclock).agrees.follows hi
  rwa [haside.answer?_eq] at hfollows

/-- A key is fetched and another pinned; the fetched one expires and is pruned. Asked again, the
directory would answer once more. -/
theorem follows_of_run_expired :
    ∃ (history : List (Mark ℤ)) (s : KeyCache ℤ × (KeyBook × ℤ) × List String),
      Run KeyBook.directory.onFirst Prod.snd 60 history s ∧
      Identity.isWellFormed "*ALICE01" = true ∧ s.1.size = 1 ∧ s.2.2 = ["*ALICE01"] ∧
      answer? 60 59 "*ALICE01" history = some (List.replicate 32 1) ∧
      answer? 60 60 "*ALICE01" history = none ∧
      Follows KeyBook.directory.onFirst Prod.snd "*ALICE01" (answer? 60 s.2.1.2 "*ALICE01" history)
        s ∧
      ∀ call : Call (KeyBook × ℤ), call.IsAside "*ALICE01" →
        s.2.1.2 ≤ (call.after KeyBook.directory.onFirst Prod.snd s).2.1.2 →
        Follows KeyBook.directory.onFirst Prod.snd "*ALICE01"
          (answer? 60 (call.after KeyBook.directory.onFirst Prod.snd s).2.1.2 "*ALICE01" history)
          (call.after KeyBook.directory.onFirst Prod.snd s) := by
  let book : KeyBook := KeyBook.empty.set "*ALICE01" (some (.octets (List.replicate 32 1)))
  have h₀ : Run KeyBook.directory.onFirst Prod.snd (60 : ℤ) [] (.empty 60, (book, 0), []) :=
    .start (book, 0)
  have h₁ := h₀.step (.ask (.text "*ALICE01")) (by decide +kernel)
  have h₂ := h₁.step (.pin (.text "BOBBOB42") (.octets (List.replicate 32 2))) (by decide +kernel)
  have h₃ := h₂.step (.wait (book, 60)) (by decide +kernel)
  have h₄ := h₃.step .prune (by decide +kernel)
  exact ⟨_, _, h₄, by decide, by decide +kernel, by decide +kernel, by decide +kernel,
    by decide +kernel, follows_of_run h₄ (by decide)⟩

end Runs

end SealedPost.KeyCache
