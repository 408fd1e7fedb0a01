import Mathlib.Algebra.GroupWithZero.Nat
import Mathlib.Data.List.DropRight
import ProxyRouting.Journal

/-! Journals in use. Whatever is done with a journal, it holds the findings that were recorded since
it was last cleared, as many of the last ones as it has room for, and every answer about them is one
about these. The listener is told of each finding once and after it is stored, so that its
objections come too late to keep a finding out. -/
namespace ProxyRouting

namespace Journal

/-- The last findings of a window are the last ones of all. -/
theorem rtake_append_rtake (n : Nat) (front rest : List Finding) :
    (front.rtake n ++ rest).rtake n = (front ++ rest).rtake n := by
  unfold List.rtake
  rw [← List.drop_append_of_le_length (by omega), List.drop_drop, List.length_drop,
    List.length_append]
  congr 1
  omega

theorem entries_store (j : Journal) (f : Finding) :
    (j.store f).entries = (j.entries ++ [f]).rtake j.limit := rfl

/-- What a listener, if there is one, says to its `n`-th call when a journal holds some findings. -/
def objection (listener : Option Listener) (n : Nat) (held : List Finding) : Except Fault Unit :=
  match listener with
  | none => .ok ()
  | some l =>
    match l.respond n held with
    | none => .ok ()
    | some fault => .error fault

/-- A finding is stored whatever the listener says, who is told of it once. -/
theorem record_eq (j : Journal) (f : Finding) :
    j.record f = (objection j.listener j.notified (j.store f).entries,
      { j.store f with notified := j.notified + if j.listener.isSome then 1 else 0 }) := by
  obtain ⟨limit, listener, entries, notified⟩ := j
  cases listener with
  | none => rfl
  | some l => rfl

/-- What can be done with a journal. -/
inductive Operation where
  | record (f : Finding)
  | clear
  | history (category : Option Category) (least : Option Severity)
  | counts

/-- What comes of it. -/
inductive Reply where
  | recorded (result : Except Fault Unit)
  | cleared
  | findings (found : List Finding)
  | counts (found : List (Category × Nat))

namespace Operation

def finding? : Operation → Option Finding
  | record f => some f
  | clear | history .. | counts => none

def isClear : Operation → Bool
  | clear => true
  | record .. | history .. | counts => false

def isQuery : Operation → Bool
  | history .. | counts => true
  | record .. | clear => false

end Operation

def perform (j : Journal) : Operation → Reply × Journal
  | .record f => (.recorded (j.record f).1, (j.record f).2)
  | .clear => (.cleared, j.clear)
  | .history category least => (.findings (j.history category least), j)
  | .counts => (.counts j.counts, j)

/-- Do one thing after the other with a journal. -/
def run (j : Journal) : List Operation → List Reply × Journal
  | [] => ([], j)
  | op :: rest => ((j.perform op).1 :: ((j.perform op).2.run rest).1, ((j.perform op).2.run rest).2)

/-- All findings that were recorded. -/
def recorded (ops : List Operation) : List Finding := ops.filterMap Operation.finding?

/-- The findings that were recorded since the journal was last cleared. -/
def current (ops : List Operation) : List Finding :=
  recorded (ops.rtakeWhile fun op => !op.isClear)

theorem current_concat_record (ops : List Operation) (f : Finding) :
    current (ops ++ [.record f]) = current ops ++ [f] := by
  simp [current, recorded, Operation.isClear, Operation.finding?]

theorem current_concat_clear (ops : List Operation) : current (ops ++ [.clear]) = [] := by
  simp [current, recorded, Operation.isClear]

theorem current_concat_query {op : Operation} (h : op.isQuery = true) (ops : List Operation) :
    current (ops ++ [op]) = current ops := by
  cases op with
  | record f => cases h
  | clear => cases h
  | history category least =>
      simp [current, recorded, Operation.isClear, Operation.finding?]
  | counts => simp [current, recorded, Operation.isClear, Operation.finding?]

theorem recorded_concat (ops : List Operation) (op : Operation) :
    recorded (ops ++ [op]) = recorded ops ++ op.finding?.toList := by
  rw [recorded, List.filterMap_append, ← recorded, List.filterMap_cons]
  cases op.finding? with
  | none => rfl
  | some f => rfl

/-- What a journal is like after some operations: in its window are the last findings that were
recorded since it was cleared, and its listener was told of each finding. -/
structure Holds (limit : Nat) (listener : Option Listener) (ops : List Operation) (j : Journal) :
    Prop where
  limit_eq : j.limit = limit
  listener_eq : j.listener = listener
  entries_eq : j.entries = (current ops).rtake limit
  notified_eq : j.notified = if listener.isSome then (recorded ops).length else 0

variable {limit : Nat} {listener : Option Listener} {ops : List Operation} {j : Journal}

/-- One more finding moves the window on. -/
theorem Holds.entries_store (h : Holds limit listener ops j) (f : Finding) :
    (j.store f).entries = (current (ops ++ [.record f])).rtake limit := by
  rw [Journal.entries_store, h.entries_eq, h.limit_eq, rtake_append_rtake, current_concat_record]

theorem Holds.perform (h : Holds limit listener ops j) (op : Operation) :
    Holds limit listener (ops ++ [op]) (j.perform op).2 := by
  have hQuery : ∀ op : Operation, op.isQuery = true → Holds limit listener (ops ++ [op]) j := by
    intro op hOp
    have hFinding : op.finding? = none := by
      cases op <;> first | rfl | cases hOp
    refine ⟨h.limit_eq, h.listener_eq, ?_, ?_⟩
    · rw [current_concat_query hOp, h.entries_eq]
    · rw [recorded_concat, hFinding, h.notified_eq]
      simp
  cases op with
  | record f =>
      show Holds limit listener (ops ++ [.record f]) (j.record f).2
      rw [record_eq]
      refine ⟨h.limit_eq, h.listener_eq, h.entries_store f, ?_⟩
      show j.notified + _ = _
      rw [h.notified_eq, h.listener_eq, recorded_concat, List.length_append]
      split <;> rfl
  | clear =>
      refine ⟨h.limit_eq, h.listener_eq, ?_, ?_⟩
      · rw [current_concat_clear, List.rtake_nil]
        rfl
      · rw [recorded_concat, List.length_append]
        exact h.notified_eq
  | history category least => exact hQuery _ rfl
  | counts => exact hQuery _ rfl

theorem run_concat (j : Journal) (ops : List Operation) (op : Operation) :
    (j.run (ops ++ [op])).2 = ((j.run ops).2.perform op).2 := by
  induction ops generalizing j with
  | nil => rfl
  | cons first rest ih => exact ih (j.perform first).2

theorem length_run (j : Journal) (ops : List Operation) :
    (j.run ops).1.length = ops.length := by
  induction ops generalizing j with
  | nil => rfl
  | cons op rest ih => rw [run, List.length_cons, ih, List.length_cons]

/-- What an operation returns is what it returns after those in front of it. -/
theorem getElem?_run (j : Journal) (before : List Operation) (op : Operation)
    (rest : List Operation) :
    (j.run (before ++ op :: rest)).1[before.length]? = some ((j.run before).2.perform op).1 := by
  induction before generalizing j with
  | nil => rfl
  | cons first before ih => exact ih (j.perform first).2

/-- After every run, the journal has the window that the run leaves. -/
theorem Holds.run (h : Holds limit listener [] j) (ops : List Operation) :
    Holds limit listener ops (j.run ops).2 := by
  induction ops using List.reverseRecOn with
  | nil => exact h
  | append_singleton ops op ih =>
      rw [run_concat]
      exact ih.perform op

theorem holds_create {limit : Int} (h : 1 ≤ limit) (listener : Option Listener) :
    ∃ j, create limit listener = .ok j ∧ Holds limit.toNat listener [] j := by
  refine ⟨⟨limit.toNat, listener, [], 0⟩, ?_, rfl, rfl, ?_, ?_⟩
  · rw [create, if_neg (by omega)]
  · simp [current, recorded]
  · split <;> rfl

/-- Whether a finding is of a category, if one is given, and of a severity at least. -/
def IsSought (category : Option Category) (least : Option Severity) (f : Finding) : Prop :=
  (∀ c ∈ category, f.category = c) ∧ ∀ s ∈ least, s.level ≤ f.severity.level

instance (category : Option Category) (least : Option Severity) :
    DecidablePred (IsSought category least) := fun _ => inferInstanceAs (Decidable (_ ∧ _))

theorem history_eq (j : Journal) (category : Option Category) (least : Option Severity) :
    j.history category least = j.entries.filter fun f => IsSought category least f := by
  apply List.filter_congr
  intro f _
  cases category <;> cases least <;> simp [IsSought]

/-- Whether numbers are those of the findings in each category: there is one for each category that
has a finding, and together they count all findings. -/
structure Tallies (found : List (Category × Nat)) (held : List Finding) : Prop where
  positive : ∀ entry ∈ found, 0 < entry.2
  distinct : (found.map Prod.fst).Nodup
  agree : ∀ c, (found.lookup c).getD 0 = (held.filter fun f => IsSought (some c) none f).length
  sum : (found.map Prod.snd).sum = held.length

theorem lookup_positive (number : Category → Nat) (c : Category) (categories : List Category) :
    (((categories.map fun c => (c, number c)).filter fun entry => 0 < entry.2).lookup c).getD 0 =
      if c ∈ categories then number c else 0 := by
  induction categories with
  | nil => rfl
  | cons other rest ih =>
      rw [List.map_cons, List.filter_cons]
      by_cases hSame : c = other
      · subst hSame
        rw [if_pos List.mem_cons_self]
        split
        next => rw [List.lookup_cons_self, Option.getD_some]
        next hZero =>
          have hNumber : number c = 0 := by simpa using hZero
          rw [ih, hNumber, ite_self]
      · have hMem : c ∈ other :: rest ↔ c ∈ rest := by simp [hSame]
        simp only [hMem]
        split
        · rw [List.lookup_cons, beq_eq_false_iff_ne.mpr hSame, ← ih]
        · exact ih

theorem sum_positive (number : Category → Nat) (categories : List Category) :
    (((categories.map fun c => (c, number c)).filter fun entry => 0 < entry.2).map Prod.snd).sum =
      (categories.map number).sum := by
  induction categories with
  | nil => rfl
  | cons c rest ih =>
      rw [List.map_cons, List.filter_cons, List.map_cons, List.sum_cons, ← ih]
      split
      next => rfl
      next hZero =>
        have hNumber : number c = 0 := by simpa using hZero
        rw [hNumber, Nat.zero_add]

/-- Each finding is of one category. -/
theorem sum_countP (held : List Finding) :
    (Category.all.map fun c => held.countP fun f => f.category = c).sum = held.length := by
  induction held with
  | nil => rfl
  | cons f rest ih =>
      simp only [Category.all, List.map_cons, List.map_nil, List.sum_cons, List.sum_nil,
        List.countP_cons, List.length_cons] at ih ⊢
      cases f.category <;> simp <;> omega

theorem tallies_counts (j : Journal) : Tallies j.counts j.entries := by
  refine ⟨?_, ?_, ?_, ?_⟩
  · intro entry hEntry
    simpa using (List.mem_filter.mp hEntry).2
  · have hSublist := (List.filter_sublist (p := fun entry : Category × Nat => 0 < entry.2)
      (l := Category.all.map fun c => (c, j.entries.countP fun f => f.category = c))).map Prod.fst
    apply hSublist.nodup
    show Category.all.Nodup
    decide
  · intro c
    rw [counts, lookup_positive, if_pos (by cases c <;> decide), List.countP_eq_length_filter]
    congr 1
    apply List.filter_congr
    intro f _
    simp [IsSought]
  · rw [counts, sum_positive, sum_countP]

/-- What an operation returns that comes behind others. A finding is in the journal by the time that
the listener is told of it, which is the next call to it, and what the listener says is returned; a
query is answered from the window. -/
def IsDue (limit : Nat) (listener : Option Listener) (before : List Operation) :
    Operation → Reply → Prop
  | .record f, reply =>
      ((current (before ++ [.record f])).rtake limit).getLast? = some f ∧
      reply = .recorded (objection listener (recorded before).length
        ((current (before ++ [.record f])).rtake limit))
  | .clear, reply => reply = .cleared
  | .history category least, reply =>
      reply = .findings
        (((current before).rtake limit).filter fun f => IsSought category least f)
  | .counts, reply =>
      ∃ found, reply = .counts found ∧ Tallies found ((current before).rtake limit)

theorem Holds.isDue (h : Holds limit listener ops j) (hLimit : 0 < limit) (op : Operation) :
    IsDue limit listener ops op (j.perform op).1 := by
  cases op with
  | record f =>
      constructor
      · obtain ⟨room, rfl⟩ := Nat.exists_eq_succ_of_ne_zero (Nat.ne_of_gt hLimit)
        rw [current_concat_record, List.rtake_concat_succ, List.getLast?_concat]
      · show Reply.recorded (j.record f).1 = _
        rw [record_eq, h.entries_store, h.listener_eq, h.notified_eq]
        cases listener with
        | none => rfl
        | some l => rfl
  | clear => rfl
  | history category least =>
      show Reply.findings (j.history category least) = _
      rw [history_eq, h.entries_eq]
  | counts =>
      refine ⟨j.counts, rfl, ?_⟩
      rw [← h.entries_eq]
      exact tallies_counts j

/-- A journal with room for one finding or more, after any operations: it holds the last findings
that were recorded since it was cleared, as many as it has room for, those too to which its listener
objected; the listener was told of each finding once; each operation returned what was due; and no
query changed anything. -/
theorem run_create {limit : Int} (h : 1 ≤ limit) (listener : Option Listener) :
    ∃ j, create limit listener = .ok j ∧ ∀ ops,
      Holds limit.toNat listener ops (j.run ops).2 ∧
      (j.run ops).1.length = ops.length ∧
      ∀ before op rest, ops = before ++ op :: rest →
        (∃ reply, (j.run ops).1[before.length]? = some reply ∧
          IsDue limit.toNat listener before op reply) ∧
        (op.isQuery = true → (j.run (before ++ [op])).2 = (j.run before).2) := by
  obtain ⟨j, hCreate, hHolds⟩ := holds_create h listener
  refine ⟨j, hCreate, fun ops => ⟨hHolds.run ops, length_run j ops, ?_⟩⟩
  rintro before op rest rfl
  refine ⟨⟨_, getElem?_run j before op rest, (hHolds.run before).isDue (by omega) op⟩, ?_⟩
  intro hQuery
  rw [run_concat]
  cases op with
  | record f => cases hQuery
  | clear => cases hQuery
  | history category least => rfl
  | counts => rfl

/-- A listener that objects to its second call. -/
def touchy : Listener := ⟨fun n _ => if n = 1 then some .listenerRefused else none⟩

/-- A finding about a script of which the message tells it from others. -/
def remark (severity : Severity) (message : String) : Finding :=
  ⟨.script, severity, message, none, .object []⟩

/-- Three findings where there is room for two, a query, and one finding more when all is gone. -/
def busy : List Operation := [
  .record (remark .high "a"), .record (remark .low "b"), .record (remark .high "c"),
  .history (some .script) (some .medium), .clear, .record (remark .low "d"), .counts]

/-- The finding to which the listener objects is held with the last one, and found by no query for
grave ones; what was cleared is gone, but the listener was told of all four findings. -/
theorem run_create_busy :
    (1 : Int) ≤ 2 ∧ ∃ j, create 2 (some touchy) = .ok j ∧
      (j.run (busy.take 3)).2.entries = [remark .low "b", remark .high "c"] ∧
      (j.run busy).1[1]? = some (.recorded (.error .listenerRefused)) ∧
      (j.run busy).1[3]? = some (.findings [remark .high "c"]) ∧
      (j.run busy).2.entries = [remark .low "d"] ∧ (j.run busy).2.notified = 4 := by
  have hRoom : (1 : Int) ≤ 2 := by decide
  obtain ⟨j, hCreate, hRun⟩ := run_create hRoom (some touchy)
  refine ⟨hRoom, j, hCreate, (hRun _).1.entries_eq, ?_, ?_, (hRun _).1.entries_eq,
    (hRun _).1.notified_eq⟩
  · obtain ⟨⟨reply, hReply, -, hDue⟩, -⟩ := (hRun busy).2.2 (busy.take 1) _ (busy.drop 2) rfl
    rw [hDue] at hReply
    exact hReply
  · obtain ⟨⟨reply, hReply, hDue⟩, -⟩ := (hRun busy).2.2 (busy.take 3) _ (busy.drop 4) rfl
    rw [hDue] at hReply
    exact hReply

end Journal

end ProxyRouting
