import Mathlib
import SealedPost.SecretMemory

/-!
# What a buffer holds, and for how long

A buffer holds what it was made with until it is wiped, by hand or at the end of a block, and zeros
of the same number from then on. Whoever looks at it through a view sees what it holds now; a copy
is a buffer of its own and is not touched by what happens to the first one.
-/

namespace SealedPost

/-! ### Wiping octet by octet -/

namespace SecretBuffer

theorem bytes_wipe (b : SecretBuffer) : b.wipe.bytes = List.replicate b.length 0 := by
  simp [wipe, length]

/-- A buffer whose octets are overwritten in turn, up to a place. -/
def overwritten (b : SecretBuffer) (place : Nat) : SecretBuffer :=
  ⟨(List.range place).foldl (fun bytes i => bytes.set i 0) b.bytes⟩

/-- The octets before the place are zeros, and those from it on are as they were. -/
theorem bytes_overwritten (b : SecretBuffer) {place : Nat} (h : place ≤ b.length) :
    (b.overwritten place).bytes = List.replicate place 0 ++ b.bytes.drop place := by
  induction place with
  | zero => rfl
  | succ place ih =>
    have hlt : place < b.bytes.length := h
    have hstep : (b.overwritten (place + 1)).bytes = (b.overwritten place).bytes.set place 0 := by
      simp [overwritten, List.range_succ]
    -- the octet at the place is the first of those that were left as they were
    rw [hstep, ih (Nat.le_of_succ_le h), List.set_append_right _ _ (by simp),
      List.drop_eq_getElem_cons hlt, List.length_replicate, Nat.sub_self, List.set_cons_zero,
      List.replicate_succ', List.append_assoc]
    rfl

theorem wipe_eq_overwritten (b : SecretBuffer) : b.wipe = b.overwritten b.length := by
  have h := b.bytes_overwritten (Nat.le_refl b.length)
  rw [length, List.drop_length, List.append_nil, ← length, ← bytes_wipe] at h
  exact congrArg SecretBuffer.mk h.symm

end SecretBuffer

namespace SecretMemory

variable {m : SecretMemory} {h k : Handle}

/-! ### One buffer and the others -/

theorem buffer_allocate (bs : Bytes) (m : SecretMemory) :
    (m.allocate bs).2.buffer (m.allocate bs).1 = ⟨bs⟩ := by
  simp [allocate, buffer]

theorem read_allocate (bs : Bytes) (m : SecretMemory) :
    (m.allocate bs).2.read (m.allocate bs).1 = bs :=
  congrArg SecretBuffer.bytes (buffer_allocate bs m)

theorem buffer_allocate_of_lt (bs : Bytes) (hk : k < m.buffers.length) :
    (m.allocate bs).2.buffer k = m.buffer k := by
  simp [allocate, buffer, List.getD_eq_getElem?_getD, List.getElem?_append_left hk]

theorem buffer_wipe (h k : Handle) (m : SecretMemory) :
    (m.wipe h).buffer k = if h = k then (m.buffer k).wipe else m.buffer k := by
  simp only [wipe, buffer, List.getD_eq_getElem?_getD, List.getElem?_modify]
  cases m.buffers[k]? <;> split <;> simp [SecretBuffer.wipe]

/-- Whether what is done in a block fails or not, the buffer is wiped at its end. -/
theorem exists_within_eq {α : Type} (h : Handle) (use : Bytes → Except Failure α)
    (m : SecretMemory) :
    (∃ a, within h use m = .ok a (m.wipe h)) ∨ ∃ e, within h use m = .error e (m.wipe h) := by
  rw [within]
  cases use (m.read h) with
  | ok a => exact .inl ⟨a, rfl⟩
  | error e => exact .inr ⟨e, rfl⟩

/-! ### One who holds a buffer -/

/-- The memory, the buffer that is held, the views that were taken of it, and the copies that were
made through views, each with the octets that the view showed then. -/
structure Holder where
  memory : SecretMemory
  handle : Handle
  views : List Handle
  copies : List (Handle × Bytes)

namespace Holder

/-- One who has just made a buffer of some octets. -/
def start (initial : Bytes) (m : SecretMemory) : Holder :=
  let (h, m) := m.allocate initial
  ⟨m, h, [], []⟩

/-- What is done with a buffer. To enter a block does nothing to it, so a block stands where it is
left, after what is done inside. Views are numbered as they were taken. -/
inductive Call where
  | wipe
  | block (use : Bytes → Except Failure Unit)
  | text
  | look
  | copy (view : Nat)
  | write (view place : Nat) (value : Int)

/-- Is the buffer wiped by the call? -/
def Call.wipes : Call → Bool
  | .wipe | .block _ => true
  | .text | .look | .copy _ | .write .. => false

/-- What a call leaves, whether it fails or not. -/
def Call.after (s : Holder) : Call → Holder
  | .wipe => { s with memory := s.memory.wipe s.handle }
  | .block use =>
    match within s.handle use s.memory with
    | .ok _ m | .error _ m => { s with memory := m }
  | .text => s
  | .look => { s with views := s.views ++ [s.handle] }
  | .copy view =>
    match s.views[view]? with
    | none => s
    | some v =>
      let (h, m) := s.memory.allocate (s.memory.read v)
      { s with memory := m, copies := s.copies ++ [(h, s.memory.read v)] }
  | .write view place value =>
    match s.views[view]? with
    | none => s
    | some v =>
      match (writeView v place value : EStateM Failure SecretMemory Unit) s.memory with
      | .ok () m | .error _ m => { s with memory := m }

variable {initial : Bytes} {wiped : Bool} {s : Holder}

/-- What a buffer holds that was made of some octets, before it is wiped and after. -/
def content (initial : Bytes) (wiped : Bool) : Bytes :=
  if wiped then List.replicate initial.length 0 else initial

@[simp] theorem length_content (initial : Bytes) (wiped : Bool) :
    (content initial wiped).length = initial.length := by
  cases wiped <;> simp [content]

/-- The buffer holds what it should, the views are views of it, and the copies are other buffers
with what they were made from. -/
structure Keeps (initial : Bytes) (wiped : Bool) (s : Holder) : Prop where
  lt : s.handle < s.memory.buffers.length
  buffer_eq : s.memory.buffer s.handle = ⟨content initial wiped⟩
  views_eq : ∀ view ∈ s.views, view = s.handle
  copies_eq : ∀ copy ∈ s.copies, copy.1 < s.memory.buffers.length ∧ s.handle ≠ copy.1 ∧
    s.memory.buffer copy.1 = ⟨copy.2⟩

theorem keeps_start (initial : Bytes) (m : SecretMemory) :
    (start initial m).Keeps initial false where
  lt := by simp [start, allocate]
  buffer_eq := buffer_allocate initial m
  views_eq := nofun
  copies_eq := nofun

/-! ### One call -/

theorem Keeps.wipe (h : s.Keeps initial wiped) :
    Keeps initial true { s with memory := s.memory.wipe s.handle } where
  lt := by
    rw [SecretMemory.wipe, List.length_modify]
    exact h.lt
  buffer_eq := by
    rw [buffer_wipe, if_pos rfl, h.buffer_eq, SecretBuffer.mk.injEq, SecretBuffer.bytes_wipe,
      SecretBuffer.length, length_content]
    rfl
  views_eq := h.views_eq
  copies_eq := fun copy hcopy => by
    obtain ⟨hlt, hne, hbuffer⟩ := h.copies_eq copy hcopy
    rw [buffer_wipe, if_neg hne, SecretMemory.wipe, List.length_modify]
    exact ⟨hlt, hne, hbuffer⟩

theorem Keeps.look (h : s.Keeps initial wiped) :
    Keeps initial wiped { s with views := s.views ++ [s.handle] } where
  lt := h.lt
  buffer_eq := h.buffer_eq
  views_eq := List.forall_mem_append.mpr ⟨h.views_eq, by simp⟩
  copies_eq := h.copies_eq

theorem Keeps.copy (h : s.Keeps initial wiped) (bs : Bytes) :
    Keeps initial wiped { s with
      memory := (s.memory.allocate bs).2
      copies := s.copies ++ [((s.memory.allocate bs).1, bs)] } := by
  -- a new buffer is put behind all others, so that none of them is the same
  have hgrows : (s.memory.allocate bs).2.buffers.length = s.memory.buffers.length + 1 := by
    simp [allocate]
  constructor
  · exact hgrows ▸ Nat.lt_succ_of_lt h.lt
  · rw [buffer_allocate_of_lt bs h.lt]
    exact h.buffer_eq
  · exact h.views_eq
  · refine List.forall_mem_append.mpr ⟨fun copy hcopy => ?_, List.forall_mem_singleton.mpr ?_⟩
    · obtain ⟨hlt, hne, hbuffer⟩ := h.copies_eq copy hcopy
      exact ⟨hgrows ▸ Nat.lt_succ_of_lt hlt, hne, by rw [buffer_allocate_of_lt bs hlt, hbuffer]⟩
    · exact ⟨hgrows ▸ Nat.lt_succ_self _, h.lt.ne, buffer_allocate bs s.memory⟩

theorem Keeps.after (h : s.Keeps initial wiped) (call : Call) :
    (call.after s).Keeps initial (wiped || call.wipes) := by
  cases call with
  | wipe =>
    rw [Call.wipes, Bool.or_true]
    exact h.wipe
  | block use =>
    rw [Call.wipes, Bool.or_true, Call.after]
    rcases s.memory.exists_within_eq s.handle use with ⟨a, ha⟩ | ⟨e, he⟩
    · rw [ha]
      exact h.wipe
    · rw [he]
      exact h.wipe
  | text =>
    rw [Call.wipes, Bool.or_false]
    exact h
  | look =>
    rw [Call.wipes, Bool.or_false]
    exact h.look
  | copy view =>
    rw [Call.wipes, Bool.or_false, Call.after]
    cases s.views[view]? with
    | none => exact h
    | some v => exact h.copy (s.memory.read v)
  | write view place value =>
    rw [Call.wipes, Bool.or_false, Call.after]
    cases s.views[view]? with
    | none => exact h
    | some v => exact h

/-! ### Any number of calls -/

theorem Keeps.afterAll (h : s.Keeps initial wiped) (calls : List Call) :
    (calls.foldl Call.after s).Keeps initial (wiped || calls.any Call.wipes) := by
  induction calls generalizing s wiped with
  | nil =>
    rw [List.any_nil, Bool.or_false]
    exact h
  | cons call calls ih =>
    rw [List.any_cons, ← Bool.or_assoc]
    exact ih (h.after call)

end Holder

/-- Whatever is done with a buffer, it keeps its length. It holds what it was made with until it is
wiped or a block is left, and zeros ever after; so does every view of it show, while a copy stays
what it was made as. Its text tells its length only. To wipe it is to overwrite one octet after the
other. -/
theorem holds_until_wiped (initial : Bytes) (m : SecretMemory) (calls : List Holder.Call) :
    let s := calls.foldl Holder.Call.after (.start initial m)
    (s.memory.buffer s.handle).length = initial.length ∧
    s.memory.read s.handle =
      (if calls.any Holder.Call.wipes then List.replicate initial.length 0 else initial) ∧
    (∀ view ∈ s.views, s.memory.read view = s.memory.read s.handle) ∧
    (∀ copy ∈ s.copies, s.memory.read copy.1 = copy.2) ∧
    (s.memory.buffer s.handle).redacted =
      "SecretBuffer(<" ++ toString initial.length ++ " bytes>)" ∧
    (s.memory.buffer s.handle).wipe = (s.memory.buffer s.handle).overwritten initial.length := by
  intro s
  have h : s.Keeps initial (false || calls.any Holder.Call.wipes) :=
    (Holder.keeps_start initial m).afterAll calls
  rw [Bool.false_or] at h
  have hlength : (s.memory.buffer s.handle).length = initial.length := by
    rw [h.buffer_eq, SecretBuffer.length, Holder.length_content]
  refine ⟨hlength, ?_, ?_, ?_, ?_, ?_⟩
  · rw [read, h.buffer_eq, Holder.content]
  · intro view hview
    rw [h.views_eq view hview]
  · intro copy hcopy
    rw [read, (h.copies_eq copy hcopy).2.2]
  · rw [SecretBuffer.redacted, hlength]
  · rw [SecretBuffer.wipe_eq_overwritten, hlength]

-- the view shows the zeros, and the copy that was made before keeps the octets
example :
    let s := [.look, .copy 0, .block fun _ => .error .authentication].foldl Holder.Call.after
      (.start [1, 2] .empty)
    s.views.map s.memory.read = [[0, 0]] ∧ s.copies.map (s.memory.read ·.1) = [[1, 2]] := by
  decide

end SecretMemory

end SealedPost
