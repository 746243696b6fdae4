import SealedPost.Proofs.Config
import SealedPost.Proofs.Frame.Reading
import SealedPost.Proofs.Text.Trimming

/-!
# Configurations and their changed copies

A configuration is made of its parts or of the environment, and any configuration can be copied with
another address or another floor, any number of times. All of them pass the checks of a new one, and
of a chain of changes only the last address and the last floor matter. To make a copy is not to
touch the configuration that is copied.
-/

namespace SealedPost.Config

variable {c : Config} {url trimmed : String}

/-! ### Addresses -/

/-- Is a text what is left of another without the slashes at its end? -/
def Trims (url trimmed : String) : Prop :=
  (∃ n, url = trimmed ++ String.ofList (List.replicate n '/')) ∧ ∀ front, trimmed ≠ front ++ "/"

theorem toList_withoutSlashes (url : String) :
    (withoutSlashes url).toList = url.toList.rdropWhile (· == '/') := by
  rw [withoutSlashes, String.toList_ofList, List.rdropWhile]

theorem rdropWhile_eq_self (h : ∀ front, trimmed ≠ front ++ "/") :
    trimmed.toList.rdropWhile (· == '/') = trimmed.toList := by
  rw [List.rdropWhile_eq_self_iff]
  intro hne hlast
  apply h (String.ofList trimmed.toList.dropLast)
  rw [← String.toList_inj, String.toList_append, String.toList_ofList]
  conv_lhs => rw [← List.dropLast_append_getLast hne, eq_of_beq hlast]
  rfl

theorem trims_withoutSlashes (url : String) : Trims url (withoutSlashes url) := by
  constructor
  · have hslashes : url.toList.rtakeWhile (· == '/') =
        List.replicate (url.toList.rtakeWhile (· == '/')).length '/' :=
      List.eq_replicate_length.mpr fun c hc => by
        simpa using List.mem_rtakeWhile_imp hc
    refine ⟨(url.toList.rtakeWhile (· == '/')).length, ?_⟩
    rw [← String.toList_inj, String.toList_append, String.toList_ofList, toList_withoutSlashes,
      ← hslashes, List.rdropWhile_append_rtakeWhile]
  · intro front hfront
    have hlist : (withoutSlashes url).toList = front.toList ++ ['/'] := by
      rw [hfront, String.toList_append]
      rfl
    have hself := List.rdropWhile_idempotent (p := fun c => c == '/') (l := url.toList)
    rw [← toList_withoutSlashes, hlist, List.rdropWhile_eq_self_iff] at hself
    exact hself (by simp) (by simp)

/-- Nothing but the slashes at the end of an address is lost. -/
theorem Trims.withoutSlashes_eq (h : Trims url trimmed) : withoutSlashes url = trimmed := by
  obtain ⟨⟨n, rfl⟩, hlast⟩ := h
  rw [← String.toList_inj, toList_withoutSlashes, String.toList_append, String.toList_ofList,
    rdropWhile_append_of_forall _ (by simp), rdropWhile_eq_self hlast]

/-- An address without slashes at its end stays as it is. -/
theorem withoutSlashes_eq_self (h : ∀ front, url ≠ front ++ "/") : withoutSlashes url = url :=
  Trims.withoutSlashes_eq ⟨⟨0, by simp⟩, h⟩

/-! ### What the checks let through -/

/-- The identity passes for one, frames can be padded to the floor, and the address has no slash at
its end. -/
structure IsSound (c : Config) : Prop where
  validate_identity : Identity.validate (.text c.identity) = .ok c.identity
  floor_in_range : 0 ≤ c.minFrameLength ∧ c.minFrameLength ≤ 256
  apiUrl_ne : ∀ front, c.apiUrl ≠ front ++ "/"

section Create

variable {identity : Identity.Candidate} {secret apiUrl : String} {floor : Int}
  {timeout : Option Quantity}

theorem create_eq_of_floor_in_range {s : String} (hi : Identity.validate identity = .ok s)
    (hf : 0 ≤ floor ∧ floor ≤ 256) :
    create identity secret apiUrl floor timeout =
      .ok ⟨s, secret, withoutSlashes apiUrl, floor, timeout⟩ := by
  rw [create, hi, Frame.paddingLength, if_pos (show _ ∧ floor ≤ Frame.maxFloor from hf)]
  rfl

theorem create_eq_of_floor_out_of_range {s : String} (hi : Identity.validate identity = .ok s)
    (hf : ¬ (0 ≤ floor ∧ floor ≤ 256)) :
    create identity secret apiUrl floor timeout = .error (.floorOutOfRange floor) := by
  rw [create, hi, Frame.paddingLength, if_neg (show ¬ (_ ∧ floor ≤ Frame.maxFloor) from hf)]
  rfl

theorem isSound_of_create (h : create identity secret apiUrl floor timeout = .ok c) :
    c.IsSound := by
  have hvalid := isValid_of_create h
  obtain ⟨s, -, h⟩ := Check.bind_eq_ok_iff.mp h
  obtain ⟨length, -, h⟩ := Check.bind_eq_ok_iff.mp h
  cases h
  exact ⟨Identity.validate_text hvalid.1, hvalid.2, (trims_withoutSlashes apiUrl).2⟩

end Create

/-- What the environment spells is made of its parts. -/
theorem exists_create_of_ofEnvironment {environment : String → Option String}
    (h : ofEnvironment environment = .ok c) : ∃ identity secret apiUrl floor timeout,
      create identity secret apiUrl floor timeout = .ok c := by
  rw [ofEnvironment] at h
  split at h
  case h_2 => cases h
  case h_1 =>
    -- what is done after a variable was read is the same whether it was set or not
    cases hfloor : environment "GATEWAY_MIN_FRAME_LENGTH"
    all_goals
      simp only [hfloor] at h
      obtain ⟨floor, -, h⟩ := Check.bind_eq_ok_iff.mp h
      cases htimeout : nonEmpty environment "GATEWAY_TIMEOUT" with
      | none =>
        simp only [htimeout] at h
        obtain ⟨timeout, -, h⟩ := Check.bind_eq_ok_iff.mp h
        exact ⟨_, _, _, _, _, h⟩
      | some s =>
        cases hreal : Real.read s with
        | none =>
          simp only [htimeout, hreal] at h
          cases h
        | some x =>
          simp only [htimeout, hreal] at h
          obtain ⟨timeout, -, h⟩ := Check.bind_eq_ok_iff.mp h
          exact ⟨_, _, _, _, _, h⟩

/-! ### One change -/

/-- A change of one field. -/
inductive Change where
  | apiUrl (url : String)
  | minFrameLength (floor : Int)

namespace Change

/-- What comes of a change: the copy, or the refusal of it. -/
def apply (c : Config) : Change → Except Failure Config
  | .apiUrl url           => c.withApiUrl url
  | .minFrameLength floor => c.withMinFrameLength floor

/-- Can the field be set? An address always can, a floor if it is in range. -/
def IsPossible : Change → Prop
  | .apiUrl _             => True
  | .minFrameLength floor => 0 ≤ floor ∧ floor ≤ 256

/-- A configuration with the one field set. -/
def on (c : Config) : Change → Config
  | .apiUrl url           => { c with apiUrl := withoutSlashes url }
  | .minFrameLength floor => { c with minFrameLength := floor }

end Change

theorem IsSound.apply_of_isPossible (h : c.IsSound) {change : Change} (hp : change.IsPossible) :
    change.apply c = .ok (change.on c) := by
  cases change with
  | apiUrl url => exact create_eq_of_floor_in_range h.validate_identity h.floor_in_range
  | minFrameLength floor =>
    rw [Change.apply, withMinFrameLength, create_eq_of_floor_in_range h.validate_identity hp,
      withoutSlashes_eq_self h.apiUrl_ne]
    rfl

/-- Only a floor is ever refused. -/
theorem IsSound.apply_of_not_isPossible (h : c.IsSound) {change : Change}
    (hp : ¬ change.IsPossible) : ∃ floor, change.apply c = .error (.floorOutOfRange floor) := by
  cases change with
  | apiUrl url => exact absurd trivial hp
  | minFrameLength floor =>
    exact ⟨floor, create_eq_of_floor_out_of_range h.validate_identity hp⟩

theorem IsSound.on (h : c.IsSound) {change : Change} (hp : change.IsPossible) :
    (change.on c).IsSound := by
  cases change with
  | apiUrl url => exact ⟨h.validate_identity, h.floor_in_range, (trims_withoutSlashes url).2⟩
  | minFrameLength floor => exact ⟨h.validate_identity, hp, h.apiUrl_ne⟩

/-! ### Chains of changes -/

/-- The copy of a copy and so on, one for each change; the first refusal ends it. -/
def changed (c : Config) (changes : List Change) : Except Failure Config :=
  changes.foldlM (fun c change => change.apply c) c

def Change.apiUrl? : Change → Option String
  | .apiUrl url       => some url
  | .minFrameLength _ => none

def Change.minFrameLength? : Change → Option Int
  | .apiUrl _             => none
  | .minFrameLength floor => some floor

/-- A configuration with the last address and the last floor that a chain sets, as far as it sets
any. -/
def settled (c : Config) (changes : List Change) : Config :=
  { c with
    apiUrl := ((changes.filterMap Change.apiUrl?).getLast?.map withoutSlashes).getD c.apiUrl
    minFrameLength := (changes.filterMap Change.minFrameLength?).getLast?.getD c.minFrameLength }

theorem foldl_on_eq (c : Config) (changes : List Change) :
    changes.foldl Change.on c = c.settled changes := by
  -- from the end, where the change stands that has the last word on its field
  induction changes using List.reverseRecOn with
  | nil => rfl
  | append_singleton changes change ih =>
    rw [List.foldl_append, ih]
    cases change with
    | apiUrl url => simp [Change.on, settled, Change.apiUrl?, Change.minFrameLength?]
    | minFrameLength floor => simp [Change.on, settled, Change.apiUrl?, Change.minFrameLength?]

variable {c' : Config} {changes : List Change}

/-- A chain comes to an end exactly if each of its changes is possible, and then each has its
effect. -/
theorem IsSound.changed_eq_ok_iff (h : c.IsSound) : c.changed changes = .ok c' ↔
    (∀ change ∈ changes, change.IsPossible) ∧ changes.foldl Change.on c = c' := by
  induction changes generalizing c with
  | nil => simp [changed, pure, Except.pure]
  | cons change changes ih =>
    simp only [changed, List.foldlM_cons, List.foldl_cons, List.forall_mem_cons] at ih ⊢
    by_cases hp : change.IsPossible
    · rw [h.apply_of_isPossible hp]
      simp only [hp, true_and]
      -- the copy is sound again, and the rest of the chain starts from it
      exact ih (h.on hp)
    · obtain ⟨floor, he⟩ := h.apply_of_not_isPossible hp
      rw [he]
      exact ⟨nofun, fun hall => absurd hall.1.1 hp⟩

theorem IsSound.foldl_on (h : c.IsSound) (hp : ∀ change ∈ changes, change.IsPossible) :
    (changes.foldl Change.on c).IsSound := by
  induction changes generalizing c with
  | nil => exact h
  | cons change changes ih =>
    obtain ⟨hchange, hp⟩ := List.forall_mem_cons.mp hp
    exact ih (h.on hchange) hp

/-! ### Any number of configurations -/

/-- What is done to come by a configuration: one is made of its parts or of the environment, or one
that is there already is copied with a change. -/
inductive Call where
  | create (identity : Identity.Candidate) (secret apiUrl : String) (minFrameLength : Int)
    (timeout : Option Quantity)
  | ofEnvironment (environment : String → Option String)
  | copy (place : Nat) (change : Change)

/-- The configuration that a call comes by, if it comes by one. -/
def Call.result? (held : List Config) : Call → Option Config
  | .create identity secret apiUrl minFrameLength timeout =>
    (Config.create identity secret apiUrl minFrameLength timeout).toOption
  | .ofEnvironment environment => (Config.ofEnvironment environment).toOption
  | .copy place change => held[place]?.bind fun c => (change.apply c).toOption

/-- The configurations after a call, oldest first. -/
def Call.after (held : List Config) (call : Call) : List Config :=
  held ++ (call.result? held).toList

theorem Call.isSound_of_result? {held : List Config} (h : ∀ c ∈ held, c.IsSound) {call : Call}
    (hr : call.result? held = some c) : c.IsSound := by
  cases call with
  | create identity secret apiUrl minFrameLength timeout =>
    exact isSound_of_create (Check.toOption_eq_some_iff.mp hr)
  | ofEnvironment environment =>
    obtain ⟨_, _, _, _, _, hcreate⟩ :=
      exists_create_of_ofEnvironment (Check.toOption_eq_some_iff.mp hr)
    exact isSound_of_create hcreate
  | copy place change =>
    obtain ⟨original, horiginal, hr⟩ := Option.bind_eq_some_iff.mp hr
    have hsound := h original (List.mem_of_getElem? horiginal)
    have happly := Check.toOption_eq_some_iff.mp hr
    by_cases hp : change.IsPossible
    · cases (hsound.apply_of_isPossible hp).symm.trans happly
      exact hsound.on hp
    · obtain ⟨floor, he⟩ := hsound.apply_of_not_isPossible hp
      cases he.symm.trans happly

theorem isSound_of_mem_foldl {held : List Config} (h : ∀ c ∈ held, c.IsSound) (calls : List Call) :
    ∀ c ∈ calls.foldl Call.after held, c.IsSound := by
  induction calls generalizing held with
  | nil => exact h
  | cons call calls ih =>
    refine ih (List.forall_mem_append.mpr ⟨h, fun c hc => ?_⟩)
    exact Call.isSound_of_result? h (Option.mem_toList.mp hc)

theorem prefix_foldl (held : List Config) (calls : List Call) :
    held <+: calls.foldl Call.after held := by
  induction calls generalizing held with
  | nil => exact List.prefix_rfl
  | cons call calls ih => exact (List.prefix_append ..).trans (ih (call.after held))

/-- A sound configuration is fit for use: a change sets its own field in the copy and no other, or
is refused, and every payload can be framed under the floor. -/
structure IsUsable (c : Config) : Prop extends c.IsSound where
  apply_eq : ∀ change : Change, change.IsPossible → change.apply c = .ok (change.on c)
  refused : ∀ change : Change, ¬ change.IsPossible → FailsAs (change.apply c) .value
  framed : ∀ (ω : Type) (source : RandomSource ω), source.IsReliable →
    ∀ (tag : UInt8) (payload : Bytes) (w : ω),
      (Frame.encode source tag.toNat payload c.minFrameLength).Yields w
        fun frame _ => Frame.IsFramed c.minFrameLength tag payload frame

theorem IsSound.isUsable (h : c.IsSound) : c.IsUsable where
  toIsSound := h
  apply_eq := fun _ => h.apply_of_isPossible
  refused := fun change hp => by
    obtain ⟨floor, he⟩ := h.apply_of_not_isPossible hp
    exact ⟨.floorOutOfRange floor, he, rfl⟩
  framed := fun ω source hs tag payload w =>
    Frame.encode_yields_isFramed hs tag payload h.floor_in_range w

/-- A configuration that one has come by stays as it is, whatever is made or copied afterwards and
whatever of it is refused. A chain of changes from it comes to an end exactly if each floor in it is
in range; what comes of it is fit for use, and only the last address and the last floor matter. Of
an address nothing is lost but the slashes at its end. -/
theorem copies_keep (calls : List Call) {place : Nat} {original : Config}
    (h : (calls.foldl Call.after [])[place]? = some original) :
    (∀ later, ((calls ++ later).foldl Call.after [])[place]? = some original) ∧
    (∀ changes c,
      (original.changed changes = .ok c ↔
        (∀ change ∈ changes, change.IsPossible) ∧ original.settled changes = c) ∧
      (original.changed changes = .ok c → c.IsUsable)) ∧
    ∀ url, Trims url (withoutSlashes url) := by
  have hsound : original.IsSound :=
    isSound_of_mem_foldl (List.forall_mem_nil _) calls original (List.mem_of_getElem? h)
  refine ⟨fun later => ?_, fun changes c => ⟨?_, fun hc => ?_⟩, trims_withoutSlashes⟩
  · obtain ⟨rest, hrest⟩ := prefix_foldl (calls.foldl Call.after []) later
    rw [List.foldl_append, ← hrest, List.getElem?_append_left (List.getElem?_eq_some_iff.mp h).1, h]
  · rw [hsound.changed_eq_ok_iff, foldl_on_eq]
  · obtain ⟨hp, rfl⟩ := hsound.changed_eq_ok_iff.mp hc
    exact (hsound.foldl_on hp).isUsable

/-- A copy is made after another was refused; of a chain from it the middle is forgotten. -/
theorem copies_keep_refused :
    ∃ (calls : List Call) (original c : Config),
      (calls.foldl Call.after [])[1]? = some original ∧ original.apiUrl = "https://b.example" ∧
      (∀ later, ((calls ++ later).foldl Call.after [])[1]? = some original) ∧
      original.changed
        [.minFrameLength 64, .apiUrl "https://c.example//", .minFrameLength 256] = .ok c ∧
      c.apiUrl = "https://c.example" ∧ c.minFrameLength = 256 ∧ c.IsUsable := by
  let calls : List Call :=
    [.create (.text "*GATEWAY") "" "https://a.example" 32 none, .copy 0 (.minFrameLength 257),
      .copy 0 (.apiUrl "https://b.example/")]
  have h : (calls.foldl Call.after [])[1]? =
      some ⟨"*GATEWAY", "", withoutSlashes "https://b.example/", 32, none⟩ := by
    rfl
  obtain ⟨hstays, hchanged, -⟩ := copies_keep calls h
  have hpossible : ∀ change ∈ ([.minFrameLength 64, .apiUrl "https://c.example//",
      .minFrameLength 256] : List Change), change.IsPossible := by
    simp [Change.IsPossible]
  have hc := (hchanged _ _).1.mpr ⟨hpossible, rfl⟩
  exact ⟨calls, _, _, h, by decide, hstays, hc, by decide, rfl, (hchanged _ _).2 hc⟩

end SealedPost.Config
