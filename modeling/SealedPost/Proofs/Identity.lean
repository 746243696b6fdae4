import SealedPost.Connection
import SealedPost.KeyCache
import SealedPost.Proofs.Config

/-!
# What is let through as an identity

The format of identities is said here character by character. Wherever an identity is taken from
outside, what has not the format is refused before a directory, a session or a cache has anything to
do with it, but for one case: a line feed after an identity is not seen.
-/

namespace SealedPost.Identity

/-! ### The format -/

/-- A letter from A to Z or a digit from 0 to 9. -/
def IsPlain (c : Char) : Prop := 'A' ≤ c ∧ c ≤ 'Z' ∨ '0' ≤ c ∧ c ≤ '9'

theorem isMark_iff {c : Char} : isMark c = true ↔ IsPlain c := by
  simp [isMark, Char.isUpper, Char.isDigit, IsPlain, Char.le_def, UInt32.le_iff_toNat_le]

/-- Eight characters, the first of them plain or a star and the other seven plain. -/
def HasFormat (s : String) : Prop :=
  ∃ first rest, s.toList = first :: rest ∧ (IsPlain first ∨ first = '*') ∧ rest.length = 7 ∧
    ∀ c ∈ rest, IsPlain c

theorem HasFormat.length_eq {s : String} (h : HasFormat s) : s.length = 8 := by
  obtain ⟨first, rest, hs, -, hl, -⟩ := h
  rw [← String.length_toList, hs, List.length_cons, hl]

theorem isWellFormed_of_toList {s : String} {first : Char} {rest tail : List Char}
    (hs : s.toList = first :: (rest ++ tail)) (hfirst : IsPlain first ∨ first = '*')
    (hl : rest.length = 7) (hrest : ∀ c ∈ rest, IsPlain c) (htail : tail = [] ∨ tail = ['\n']) :
    isWellFormed s = true := by
  rw [isWellFormed, hs]
  simp only [List.take_left' hl, List.drop_left' hl, Bool.and_eq_true, Bool.or_eq_true, beq_iff_eq,
    List.all_eq_true, isMark_iff]
  exact ⟨⟨⟨hfirst, hl⟩, hrest⟩, htail⟩

/-- What passes for well-formed has the format, but for a line feed at its end. -/
theorem isWellFormed_iff {s : String} :
    isWellFormed s = true ↔ HasFormat s ∨ ∃ t, HasFormat t ∧ s = t ++ "\n" := by
  have hline : "\n".toList = ['\n'] := rfl
  constructor
  · intro h
    rw [isWellFormed.eq_def] at h
    split at h
    case h_2 => cases h
    case h_1 first rest hs =>
      simp only [Bool.and_eq_true, Bool.or_eq_true, beq_iff_eq, List.all_eq_true, isMark_iff] at h
      obtain ⟨⟨⟨hfirst, hl⟩, hplain⟩, hend⟩ := h
      have hsplit := List.take_append_drop 7 rest
      rcases hend with hend | hend
      · rw [hend, List.append_nil] at hsplit
        rw [hsplit] at hl hplain
        exact .inl ⟨first, rest, hs, hfirst, hl, hplain⟩
      · rw [hend] at hsplit
        refine .inr ⟨String.ofList (first :: rest.take 7),
          ⟨first, rest.take 7, String.toList_ofList, hfirst, hl, hplain⟩, ?_⟩
        rw [← String.toList_inj, hs, String.toList_append, String.toList_ofList, List.cons_append,
          hline, hsplit]
  · rintro (⟨first, rest, hs, hfirst, hl, hplain⟩ | ⟨t, ⟨first, rest, ht, hfirst, hl, hplain⟩, rfl⟩)
    · exact isWellFormed_of_toList (by rw [hs, List.append_nil]) hfirst hl hplain (.inl rfl)
    · exact isWellFormed_of_toList (by rw [String.toList_append, ht, hline, List.cons_append])
        hfirst hl hplain (.inr rfl)

/-! ### What is offered -/

namespace Candidate

/-- A text in the format. -/
def IsIdentity (v : Candidate) : Prop := ∃ s, v = .text s ∧ HasFormat s

/-- A text in the format with a line feed after it. -/
def IsLine (v : Candidate) : Prop := ∃ s, v = .text (s ++ "\n") ∧ HasFormat s

/-- The candidate is refused wherever it is offered: by the check itself, for a new configuration,
by a cache that is to look it up or to pin a key, and by a connection that is to look it up or to
send to it. Neither the directory nor the session is called, and the cache stays as it was. -/
structure IsRefused (v : Candidate) : Prop where
  validate : Identity.validate v = .error (.invalidIdentity v)
  config : ∀ secret apiUrl floor timeout,
    Config.create v secret apiUrl floor timeout = .error (.invalidIdentity v)
  ask : ∀ {ω τ : Type} [PartialAdd τ] [LE τ] [DecidableLE τ] (directory : KeyDirectory ω)
    (clock : ω → τ) (c : KeyCache τ) (w : ω) (asked : List String),
    KeyCache.publicKeyFor directory.recorded (clock ∘ Prod.fst) v (c, w, asked) =
      .error (.invalidIdentity v) (c, w, asked)
  pin : ∀ {τ : Type} (key : Material) (c : KeyCache τ), c.pin v key = .error (.invalidIdentity v)
  lookup : ∀ {ω : Type} (config : Config) (session : Session ω) (w : ω) (requests : List Request),
    Connection.lookupPublicKey ⟨config, session.recorded⟩ v (w, requests) =
      .error (.invalidIdentity v) (w, requests)
  send : ∀ {ω : Type} (config : Config) (session : Session ω) (w : ω) (requests : List Request)
    (envelope : Envelope),
    Connection.sendEnvelope ⟨config, session.recorded⟩ v envelope [] (w, requests) =
      .error (.invalidIdentity v) (w, requests)

end Candidate

theorem validate_eq_error_iff {v : Candidate} :
    validate v = .error (.invalidIdentity v) ↔ ¬ v.IsIdentity ∧ ¬ v.IsLine := by
  have haccepted : (∃ s, validate v = .ok s) ↔ v.IsIdentity ∨ v.IsLine := by
    simp only [validate_eq_ok_iff, isWellFormed_iff, Candidate.IsIdentity, Candidate.IsLine]
    constructor
    · rintro ⟨s, rfl, h | ⟨t, h, rfl⟩⟩
      · exact .inl ⟨s, rfl, h⟩
      · exact .inr ⟨t, rfl, h⟩
    · rintro (⟨s, rfl, h⟩ | ⟨t, rfl, h⟩)
      · exact ⟨s, rfl, .inl h⟩
      · exact ⟨t ++ "\n", rfl, .inr ⟨t, h, rfl⟩⟩
  rw [← not_or, ← haccepted]
  cases v with
  | text s =>
    rw [validate]
    split <;> simp
  | absent => simp [validate]
  | flag b => simp [validate]
  | number n => simp [validate]
  | other s => simp [validate]

/-- A candidate is refused everywhere, and before anything else is done, exactly if it is no
identity and no identity with a line feed after it. -/
theorem isRefused_iff (v : Candidate) : v.IsRefused ↔ ¬ v.IsIdentity ∧ ¬ v.IsLine := by
  rw [← validate_eq_error_iff]
  refine ⟨Candidate.IsRefused.validate, fun h => ?_⟩
  constructor
  · exact h
  · intro secret apiUrl floor timeout
    rw [Config.create, h]
    rfl
  · intro ω τ _ _ _ directory clock c w asked
    simp only [KeyCache.publicKeyFor, h]
  · intro τ key c
    rw [KeyCache.pin, h]
    rfl
  · intro ω config session w requests
    rw [Connection.lookupPublicKey, h]
    rfl
  · intro ω config session w requests envelope
    rw [Connection.sendEnvelope, h]
    rfl

/-- There is no identity of nine characters, and yet one with a line feed after it passes
everywhere: a configuration takes it, a key is pinned for it, a directory is asked for it, and both
requests of a connection are made. -/
theorem exists_line_let_through :
    ∃ v : Candidate, v = .text "ECHOECHO\n" ∧ ¬ v.IsIdentity ∧ validate v = .ok "ECHOECHO\n" ∧
      (∃ config, Config.create v "" "" 0 none = .ok config ∧ config.identity = "ECHOECHO\n") ∧
      (∃ c, (KeyCache.empty 60).pin v (.octets (List.replicate 32 1)) = .ok c ∧ c.size = 1) ∧
      (∃ e w, KeyCache.publicKeyFor KeyBook.directory.recorded (fun _ => 0) v
        (.empty 60, .empty, []) = .error e (.empty 60, w, ["ECHOECHO\n"])) ∧
      ∀ config : Config, ∀ envelope : Envelope,
        (∃ e w r, Connection.lookupPublicKey ⟨config, Session.scripted.recorded⟩ v ([], []) =
          .error e (w, [r])) ∧
        ∃ e w r, Connection.sendEnvelope ⟨config, Session.scripted.recorded⟩ v envelope []
          ([], []) = .error e (w, [r]) := by
  refine ⟨_, rfl, ?_, validate_text (by decide), ⟨_, rfl, rfl⟩, ⟨_, rfl, rfl⟩, ⟨_, _, rfl⟩,
    fun config envelope => ⟨⟨_, _, _, rfl⟩, ⟨_, _, _, rfl⟩⟩⟩
  rintro ⟨s, hs, hformat⟩
  cases hs
  exact absurd hformat.length_eq (by decide)

end SealedPost.Identity
