import VoxRtc.Transition.Runs
import Mathlib.Data.List.AList

/-!
# Callers who wait under a key

A desk keeps one waiting caller for each key, with an alarm that is set when the caller
enters. Whoever is answered leaves, and the alarm is taken back if it is still set. An alarm
that has rung cannot be taken back: its message comes later, and names the key only.
-/
namespace Correlation

universe u v

structure Alarm (κ : Type u) where
  ref : Nat
  key : κ
  deriving DecidableEq, Repr

structure Ticket where
  caller : Nat
  timer : Nat
  deriving DecidableEq, Repr

/-- A caller who has entered, with the key and the alarm. -/
structure Visit (κ : Type u) where
  caller : Nat
  key : κ
  timer : Nat
  deriving DecidableEq, Repr

def Visit.alarm {κ : Type u} (v : Visit κ) : Alarm κ := ⟨v.timer, v.key⟩

def Visit.ticket {κ : Type u} (v : Visit κ) : Ticket := ⟨v.caller, v.timer⟩

structure Desk (κ : Type) (ρ : Type v) where
  waiting : AList fun _ : κ => Ticket
  /-- The alarms that may still ring, and those whose message has not come. -/
  set : List (Alarm κ)
  rung : List (Alarm κ)
  visits : List (Visit κ)
  replies : List (Nat × ρ)
  /-- How many calls, and how many references, there have been. -/
  calls : Nat
  references : Nat

namespace Desk

variable {κ : Type} {ρ : Type v} [DecidableEq κ]

def call (d : Desk κ ρ) : Desk κ ρ := { d with calls := d.calls + 1 }

def refer (d : Desk κ ρ) : Desk κ ρ := { d with references := d.references + 1 }

def enter (d : Desk κ ρ) (key : κ) (caller : Nat) : Desk κ ρ :=
  { d with
    waiting := d.waiting.insert key ⟨caller, d.references⟩
    set := d.set ++ [⟨d.references, key⟩]
    visits := d.visits ++ [⟨caller, key, d.references⟩]
    references := d.references + 1 }

/-- Others are answered, who do not wait. -/
def tell (d : Desk κ ρ) (new : List (Nat × ρ)) : Desk κ ρ :=
  { d with replies := d.replies ++ new }

/-- The caller under a key leaves with an answer. -/
def leave (d : Desk κ ρ) (key : κ) (caller : Nat) (reply : ρ) (set rung : List (Alarm κ)) :
    Desk κ ρ :=
  { d with
    waiting := d.waiting.erase key
    set := set
    rung := rung
    replies := d.replies ++ [(caller, reply)] }

def answer (d : Desk κ ρ) (key : κ) (reply : ρ) : Desk κ ρ :=
  match d.waiting.lookup key with
  | none => d
  | some ticket =>
    d.leave key ticket.caller reply (d.set.filter (·.ref ≠ ticket.timer)) d.rung

def answerAll (d : Desk κ ρ) (reply : κ → ρ) : Desk κ ρ :=
  { d with
    waiting := ∅
    set := d.set.filter fun alarm => d.waiting.entries.all (·.2.timer ≠ alarm.ref)
    replies := d.replies ++ d.waiting.entries.map fun entry => (entry.2.caller, reply entry.1) }

def ring (d : Desk κ ρ) (alarm : Alarm κ) : Desk κ ρ :=
  { d with set := d.set.erase alarm, rung := d.rung ++ [alarm] }

/-- The message of an alarm answers whoever waits under its key. -/
def expire (d : Desk κ ρ) (alarm : Alarm κ) (reply : ρ) : Desk κ ρ :=
  match d.waiting.lookup alarm.key with
  | none => { d with rung := d.rung.erase alarm }
  | some ticket => d.leave alarm.key ticket.caller reply d.set (d.rung.erase alarm)

/-- The caller of a visit still waits. -/
def Waits (d : Desk κ ρ) (v : Visit κ) : Prop := d.waiting.lookup v.key = some v.ticket

/-- How many answers the caller of a visit has had. -/
def answers (d : Desk κ ρ) (v : Visit κ) : Nat := (d.replies.map Prod.fst).count v.caller

/-- Every caller who has entered waits or has been answered once, and whoever waits has an
alarm that will come. -/
structure Good (d : Desk κ ρ) : Prop where
  known : ∀ key ticket, d.waiting.lookup key = some ticket →
    ⟨ticket.caller, key, ticket.timer⟩ ∈ d.visits
  callers : (d.visits.map Visit.caller).Nodup
  timers : (d.visits.map Visit.timer).Nodup
  once : ∀ v ∈ d.visits, d.Waits v ∧ d.answers v = 0 ∨ ¬d.Waits v ∧ d.answers v = 1
  alarmed : ∀ v, d.Waits v → v.alarm ∈ d.set ∨ v.alarm ∈ d.rung
  replied : ∀ r ∈ d.replies, r.1 < d.calls
  early : ∀ v ∈ d.visits, v.caller < d.calls ∧ v.timer < d.references

/-- An alarm that is set belongs to one who waits, and one that has rung to no other than
the one who waits under its key. -/
structure Punctual (d : Desk κ ρ) : Prop where
  distinct : d.set.Nodup
  apart : ∀ alarm ∈ d.set, alarm ∉ d.rung
  live : ∀ alarm ∈ d.set, ∃ v, d.Waits v ∧ v.alarm = alarm
  passed : ∀ alarm ∈ d.rung, ∃ v ∈ d.visits, v.alarm = alarm
  due : ∀ alarm ∈ d.rung, ∀ ticket, d.waiting.lookup alarm.key = some ticket →
    ticket.timer = alarm.ref

variable {d : Desk κ ρ} {key : κ} {ticket : Ticket} {reply : ρ} {new : List (Nat × ρ)}
  {caller : Nat} {set rung : List (Alarm κ)}

omit [DecidableEq κ] in
theorem answers_tell (v : Visit κ) :
    (d.tell new).answers v = d.answers v + (new.map Prod.fst).count v.caller := by
  simp only [answers, tell, List.map_append, List.count_append]

omit [DecidableEq κ] in
theorem answers_leave [DecidableEq κ] (v : Visit κ) :
    (d.leave key caller reply set rung).answers v =
      d.answers v + if v.caller = caller then 1 else 0 := by
  -- The answers see of one who leaves only that it is told something.
  rw [show (d.leave key caller reply set rung).answers v = (d.tell [(caller, reply)]).answers v
    from rfl, answers_tell, List.map_singleton, List.count_singleton]
  simp only [beq_iff_eq, @eq_comm _ caller]

theorem waits_leave {v : Visit κ} :
    (d.leave key caller reply set rung).Waits v ↔ d.Waits v ∧ v.key ≠ key := by
  by_cases same : v.key = key
  · simp only [same, ne_eq, not_true_eq_false, and_false, iff_false]
    rw [Waits, leave, same, AList.lookup_erase]
    simp
  · rw [Waits, leave, AList.lookup_erase_ne same]
    exact (and_iff_left same).symm

theorem waits_enter (free : d.waiting.lookup key = none) {v : Visit κ} :
    (d.enter key caller).Waits v ↔ v = ⟨caller, key, d.references⟩ ∨ d.Waits v := by
  by_cases same : v.key = key
  · obtain ⟨c, k, t⟩ := v
    subst same
    -- The key was free, so that nobody else waits under it.
    have absent : ¬d.Waits ⟨c, k, t⟩ := by
      rw [Waits, free]
      simp
    rw [Waits, enter, AList.lookup_insert]
    simp [absent, Visit.ticket, eq_comm]
  · have other : v ≠ ⟨caller, key, d.references⟩ := by
      rintro rfl
      exact same rfl
    rw [Waits, enter, AList.lookup_insert_ne same]
    exact (or_iff_right other).symm

theorem not_waits_expire {alarm : Alarm κ} {v : Visit κ} (same : v.key = alarm.key) :
    ¬(d.expire alarm reply).Waits v := by
  unfold expire
  split
  next missing =>
    -- Nobody waits under the key at all.
    rw [Waits, same, missing]
    simp
  · rw [waits_leave]
    exact fun waits => waits.2 same

theorem waits_answer {v : Visit κ} :
    (d.answer key reply).Waits v ↔ d.Waits v ∧ v.key ≠ key := by
  unfold answer
  split
  next missing =>
    refine (and_iff_left_of_imp fun waits same => ?_).symm
    rw [Waits, same, missing] at waits
    cases waits
  · exact waits_leave

/-- Only the one who leaves takes alarms along, and nobody comes. -/
theorem answer_frame : (d.answer key reply).calls = d.calls ∧
    ∀ alarm ∈ (d.answer key reply).set, alarm ∈ d.set := by
  unfold answer
  split
  · exact ⟨rfl, fun _ member => member⟩
  · exact ⟨rfl, fun _ member => List.mem_of_mem_filter member⟩

theorem expire_frame {alarm : Alarm κ} : (d.expire alarm reply).calls = d.calls ∧
    (d.expire alarm reply).set = d.set := by
  unfold expire
  split <;> exact ⟨rfl, rfl⟩

namespace Good

/-- The visit behind a ticket. -/
theorem visit_of_ticket (good : d.Good) (found : d.waiting.lookup key = some ticket)
    {v : Visit κ} (visit : v ∈ d.visits) (same : v.caller = ticket.caller) :
    v = ⟨ticket.caller, key, ticket.timer⟩ :=
  List.inj_on_of_nodup_map good.callers visit (good.known key ticket found) same

theorem waits_iff_key (good : d.Good) (found : d.waiting.lookup key = some ticket)
    {v : Visit κ} (visit : v ∈ d.visits) : v.caller = ticket.caller ↔ d.Waits v ∧ v.key = key := by
  constructor
  · intro same
    obtain rfl := good.visit_of_ticket found visit same
    exact ⟨found, rfl⟩
  · rintro ⟨waits, rfl⟩
    have equal : some v.ticket = some ticket := waits.symm.trans found
    cases equal
    rfl

theorem call (good : d.Good) : d.call.Good where
  known := good.known
  callers := good.callers
  timers := good.timers
  once := good.once
  alarmed := good.alarmed
  replied r member := Nat.lt_succ_of_lt (good.replied r member)
  early v visit := ⟨Nat.lt_succ_of_lt (good.early v visit).1, (good.early v visit).2⟩

theorem refer (good : d.Good) : d.refer.Good where
  known := good.known
  callers := good.callers
  timers := good.timers
  once := good.once
  alarmed := good.alarmed
  replied := good.replied
  early v visit := ⟨(good.early v visit).1, Nat.lt_succ_of_lt (good.early v visit).2⟩

theorem tell (good : d.Good) (past : ∀ r ∈ new, r.1 < d.calls)
    (others : ∀ v ∈ d.visits, ∀ r ∈ new, r.1 ≠ v.caller) : (d.tell new).Good where
  known := good.known
  callers := good.callers
  timers := good.timers
  alarmed := good.alarmed
  early := good.early
  replied r member := by
    rcases List.mem_append.mp member with old | told
    · exact good.replied r old
    · exact past r told
  once v visit := by
    have none : (new.map Prod.fst).count v.caller = 0 := by
      rw [List.count_eq_zero, List.mem_map]
      rintro ⟨r, member, same⟩
      exact others v visit r member same
    rw [answers_tell, none, Nat.add_zero]
    exact good.once v visit

theorem visit_of_waits (good : d.Good) {v : Visit κ} (waits : d.Waits v) : v ∈ d.visits :=
  good.known v.key v.ticket waits

/-- The alarms of those who do not leave are kept. -/
theorem leave (good : d.Good) (found : d.waiting.lookup key = some ticket)
    (kept : ∀ v, d.Waits v → v.key ≠ key → v.alarm ∈ set ∨ v.alarm ∈ rung) :
    (d.leave key ticket.caller reply set rung).Good where
  known other found' := by
    -- The key that is erased is looked up no more.
    by_cases same : other = key
    · subst same
      intro absurd
      rw [Desk.leave, AList.lookup_erase] at absurd
      cases absurd
    · rw [Desk.leave, AList.lookup_erase_ne same]
      exact good.known other found'
  callers := good.callers
  timers := good.timers
  early := good.early
  replied r member := by
    rcases List.mem_append.mp member with old | last
    · exact good.replied r old
    · rw [List.mem_singleton.mp last]
      exact (good.early _ (good.known key ticket found)).1
  alarmed v waits := by
    rw [waits_leave] at waits
    exact kept v waits.1 waits.2
  once v visit := by
    have owner := good.waits_iff_key found visit
    rw [waits_leave, answers_leave]
    rcases good.once v visit with ⟨waits, unanswered⟩ | ⟨gone, answered⟩
    -- It is the one who leaves that has this answer.
    · by_cases same : v.key = key
      · right
        refine ⟨fun still => still.2 same, ?_⟩
        rw [if_pos (owner.mpr ⟨waits, same⟩), unanswered]
      · left
        refine ⟨⟨waits, same⟩, ?_⟩
        rw [if_neg fun leaves => same (owner.mp leaves).2, unanswered]
    · right
      refine ⟨fun still => gone still.1, ?_⟩
      rw [if_neg fun leaves => gone (owner.mp leaves).1, answered]

theorem answer (good : d.Good) : (d.answer key reply).Good := by
  unfold Desk.answer
  split
  · exact good
  next ticket found =>
    refine good.leave found fun v waits other => ?_
    rcases good.alarmed v waits with still | rung
    · -- The alarm that is taken back is the one of the visit that leaves.
      refine .inl (List.mem_filter.mpr ⟨still, ?_⟩)
      simp only [ne_eq, decide_eq_true_eq]
      intro same
      have equal := List.inj_on_of_nodup_map good.timers (good.visit_of_waits waits)
        (good.known key ticket found) same
      exact other (congrArg Visit.key equal)
    · exact .inr rung

theorem expire (good : d.Good) {alarm : Alarm κ} : (d.expire alarm reply).Good := by
  unfold Desk.expire
  split
  next missing =>
    refine { good with alarmed := fun v waits => ?_ }
    rcases good.alarmed v waits with still | rung
    · exact .inl still
    · refine .inr ((List.mem_erase_of_ne ?_).mpr rung)
      rintro rfl
      exact absurd (missing.symm.trans waits) (by simp)
  next ticket found =>
    refine good.leave found fun v waits other => ?_
    rcases good.alarmed v waits with still | rung
    · exact .inl still
    · refine .inr ((List.mem_erase_of_ne ?_).mpr rung)
      rintro rfl
      exact other rfl

theorem ring (good : d.Good) (alarm : Alarm κ) : (d.ring alarm).Good where
  known := good.known
  callers := good.callers
  timers := good.timers
  once := good.once
  replied := good.replied
  early := good.early
  alarmed v waits := by
    -- The alarm that rings moves from one list to the other.
    by_cases same : v.alarm = alarm
    · exact .inr (List.mem_append_right _ (by rw [same]; exact List.mem_singleton_self _))
    · rcases good.alarmed v waits with still | rung
      · exact .inl ((List.mem_erase_of_ne same).mpr still)
      · exact .inr (List.mem_append_left _ rung)

theorem enter (good : d.Good) (free : d.waiting.lookup key = none) (called : caller < d.calls)
    (newCaller : ∀ v ∈ d.visits, v.caller ≠ caller) (unanswered : ∀ r ∈ d.replies, r.1 ≠ caller) :
    (d.enter key caller).Good where
  known other ticket := by
    by_cases same : other = key
    · subst same
      rw [Desk.enter, AList.lookup_insert]
      rintro ⟨rfl⟩
      exact List.mem_append_right _ (List.mem_singleton_self _)
    · rw [Desk.enter, AList.lookup_insert_ne same]
      exact fun found => List.mem_append_left _ (good.known other ticket found)
  callers := by
    rw [Desk.enter, List.map_append, List.map_singleton, ← List.concat_eq_append]
    refine good.callers.concat fun member => ?_
    obtain ⟨v, visit, same⟩ := List.mem_map.mp member
    exact newCaller v visit same
  timers := by
    rw [Desk.enter, List.map_append, List.map_singleton, ← List.concat_eq_append]
    refine good.timers.concat fun member => ?_
    obtain ⟨v, visit, same⟩ := List.mem_map.mp member
    exact Nat.ne_of_lt (good.early v visit).2 same
  replied := good.replied
  early v visit := by
    rcases List.mem_append.mp visit with old | new
    · exact ⟨(good.early v old).1, Nat.lt_succ_of_lt (good.early v old).2⟩
    · rw [List.mem_singleton.mp new]
      exact ⟨called, Nat.lt_succ_self _⟩
  once v visit := by
    change _ ∧ d.answers v = 0 ∨ _ ∧ d.answers v = 1
    rw [waits_enter free]
    -- A visit of before keeps its state, as its caller is another.
    rcases List.mem_append.mp visit with old | new
    · have other : v ≠ ⟨caller, key, d.references⟩ := by
        rintro rfl
        exact newCaller _ old rfl
      simpa only [other, false_or] using good.once v old
    · obtain rfl := List.mem_singleton.mp new
      refine .inl ⟨.inl rfl, List.count_eq_zero.mpr fun member => ?_⟩
      obtain ⟨r, reply, same⟩ := List.mem_map.mp member
      exact unanswered r reply same
  alarmed v waits := by
    rcases (waits_enter free).mp waits with rfl | old
    · exact .inl (List.mem_append_right _ (List.mem_singleton_self _))
    · rcases good.alarmed v old with still | rung
      · exact .inl (List.mem_append_left _ still)
      · exact .inr rung

theorem waiting_callers (good : d.Good) :
    (d.waiting.entries.map fun entry => entry.2.caller).Nodup := by
  refine List.Nodup.map_on ?_ d.waiting.nodupKeys.nodup
  rintro ⟨key, ticket⟩ member ⟨other, ticket'⟩ member' same
  have first := good.known key ticket (AList.mem_lookup_iff.mpr member)
  have second := good.known other ticket' (AList.mem_lookup_iff.mpr member')
  have equal := List.inj_on_of_nodup_map good.callers first second same
  obtain rfl : key = other := congrArg Visit.key equal
  rw [d.waiting.nodupKeys.eq_of_mk_mem member member']

/-- Everyone who waits leaves with an answer. -/
theorem answerAll (good : d.Good) (replies : κ → ρ) : (d.answerAll replies).Good where
  known key ticket absurd := by cases absurd
  callers := good.callers
  timers := good.timers
  early := good.early
  replied r member := by
    rcases List.mem_append.mp member with old | new
    · exact good.replied r old
    · obtain ⟨entry, listed, rfl⟩ := List.mem_map.mp new
      exact (good.early _ (good.known _ _ (AList.mem_lookup_iff.mpr listed))).1
  alarmed v absurd := by cases absurd
  once v visit := by
    -- Every caller who waits occurs once among the new answers.
    have counted : (d.answerAll replies).answers v =
        d.answers v + (d.waiting.entries.map fun entry => entry.2.caller).count v.caller := by
      change (d.tell _).answers v = _
      rw [answers_tell, List.map_map]
      rfl
    refine .inr ⟨(fun absurd => by cases absurd), ?_⟩
    rw [counted]
    rcases good.once v visit with ⟨waits, unanswered⟩ | ⟨gone, answered⟩
    · rw [unanswered, List.count_eq_one_of_mem good.waiting_callers]
      exact List.mem_map.mpr ⟨⟨v.key, v.ticket⟩, AList.mem_lookup_iff.mp waits, rfl⟩
    · rw [answered, List.count_eq_zero.mpr]
      intro member
      obtain ⟨entry, member, same⟩ := List.mem_map.mp member
      have found := AList.mem_lookup_iff.mpr member
      exact gone ((good.waits_iff_key found visit).mp same.symm).1

end Good

namespace Punctual

theorem call (punctual : d.Punctual) : d.call.Punctual := { punctual with }

theorem refer (punctual : d.Punctual) : d.refer.Punctual := { punctual with }

theorem tell (punctual : d.Punctual) : (d.tell new).Punctual := { punctual with }

theorem ring (punctual : d.Punctual) (good : d.Good) {alarm : Alarm κ} (still : alarm ∈ d.set) :
    (d.ring alarm).Punctual where
  distinct := punctual.distinct.erase alarm
  apart other member rung := by
    rcases List.mem_append.mp rung with old | new
    · exact punctual.apart other (List.mem_of_mem_erase member) old
    · exact (punctual.distinct.mem_erase_iff.mp member).1 (List.mem_singleton.mp new)
  live other member := punctual.live other (List.mem_of_mem_erase member)
  passed other rung := by
    rcases List.mem_append.mp rung with old | new
    · exact punctual.passed other old
    · obtain rfl := List.mem_singleton.mp new
      obtain ⟨v, waits, same⟩ := punctual.live other still
      exact ⟨v, good.visit_of_waits waits, same⟩
  due other rung ticket found := by
    rcases List.mem_append.mp rung with old | new
    · exact punctual.due other old ticket found
    · obtain rfl := List.mem_singleton.mp new
      -- The alarm was set, and its visit is the one that waits under its key.
      obtain ⟨v, waits, rfl⟩ := punctual.live other still
      have equal : some v.ticket = some ticket := waits.symm.trans found
      cases equal
      rfl

/-- One who leaves takes the alarms under the key along. -/
theorem leave (punctual : d.Punctual) (fewer : set.Sublist d.set) (less : rung.Sublist d.rung)
    (gone : ∀ alarm ∈ set, alarm.key ≠ key) :
    (d.leave key caller reply set rung).Punctual where
  distinct := fewer.nodup punctual.distinct
  apart alarm member old := punctual.apart alarm (fewer.subset member) (less.subset old)
  live alarm member := by
    obtain ⟨v, waits, rfl⟩ := punctual.live alarm (fewer.subset member)
    exact ⟨v, waits_leave.mpr ⟨waits, gone _ member⟩, rfl⟩
  passed alarm member := punctual.passed alarm (less.subset member)
  due alarm member ticket found := by
    -- Under the key itself nobody waits any more.
    by_cases same : alarm.key = key
    · rw [Desk.leave, same, AList.lookup_erase] at found
      cases found
    · rw [Desk.leave, AList.lookup_erase_ne same] at found
      exact punctual.due alarm (less.subset member) ticket found

theorem answer (punctual : d.Punctual) : (d.answer key reply).Punctual := by
  unfold Desk.answer
  split
  · exact punctual
  next ticket found =>
    refine punctual.leave List.filter_sublist (List.Sublist.refl _) ?_
    rintro alarm member same
    obtain ⟨still, other⟩ := List.mem_filter.mp member
    -- An alarm under the key is that of the ticket, which has been taken back.
    obtain ⟨v, waits, rfl⟩ := punctual.live alarm still
    have equal : some v.ticket = some ticket := by
      rw [← found, ← same]
      exact waits.symm
    cases equal
    simp [Visit.alarm, Visit.ticket] at other

theorem expire (punctual : d.Punctual) {alarm : Alarm κ} (rung : alarm ∈ d.rung) :
    (d.expire alarm reply).Punctual := by
  unfold Desk.expire
  split
  next missing =>
    refine ⟨punctual.distinct, fun other still old => ?_, punctual.live, fun other old => ?_,
      fun other old => ?_⟩
    · exact punctual.apart other still (List.mem_of_mem_erase old)
    · exact punctual.passed other (List.mem_of_mem_erase old)
    · exact punctual.due other (List.mem_of_mem_erase old)
  next ticket found =>
    refine punctual.leave (List.Sublist.refl _) List.erase_sublist ?_
    intro other still same
    -- It would be the alarm that has rung.
    obtain ⟨v, waits, rfl⟩ := punctual.live other still
    have equal : some v.ticket = some ticket := by
      rw [← found, ← same]
      exact waits.symm
    cases equal
    have early : v.timer = alarm.ref := punctual.due alarm rung _ found
    have equal : v.alarm = alarm := by
      rw [Visit.alarm, early, show v.key = alarm.key from same]
    exact punctual.apart _ still (equal ▸ rung)

theorem answerAll (punctual : d.Punctual) (replies : κ → ρ) : (d.answerAll replies).Punctual where
  distinct := List.filter_sublist.nodup punctual.distinct
  apart alarm member := punctual.apart alarm (List.mem_of_mem_filter member)
  live alarm member := by
    obtain ⟨still, other⟩ := List.mem_filter.mp member
    obtain ⟨v, waits, rfl⟩ := punctual.live alarm still
    have listed := List.all_eq_true.mp other _ (AList.mem_lookup_iff.mp waits)
    simp [Visit.alarm, Visit.ticket] at listed
  passed := punctual.passed
  due alarm member ticket absurd := by cases absurd

theorem enter (punctual : d.Punctual) (good : d.Good) (free : d.waiting.lookup key = none)
    (fresh : ∀ alarm ∈ d.rung, alarm.key ≠ key) : (d.enter key caller).Punctual where
  distinct := by
    rw [Desk.enter, ← List.concat_eq_append]
    refine punctual.distinct.concat fun member => ?_
    obtain ⟨v, waits, same⟩ := punctual.live _ member
    have old := (good.early v (good.visit_of_waits waits)).2
    exact Nat.ne_of_lt old (congrArg Alarm.ref same)
  apart alarm member rung := by
    rcases List.mem_append.mp member with old | new
    · exact punctual.apart alarm old rung
    · obtain rfl := List.mem_singleton.mp new
      exact fresh _ rung rfl
  live alarm member := by
    rcases List.mem_append.mp member with old | new
    · obtain ⟨v, waits, same⟩ := punctual.live alarm old
      exact ⟨v, (waits_enter free).mpr (.inr waits), same⟩
    · obtain rfl := List.mem_singleton.mp new
      exact ⟨⟨caller, key, d.references⟩, (waits_enter free).mpr (.inl rfl), rfl⟩
  passed alarm rung := by
    obtain ⟨v, visit, same⟩ := punctual.passed alarm rung
    exact ⟨v, List.mem_append_left _ visit, same⟩
  due alarm rung ticket found := by
    -- No alarm that has rung names the key, so the newcomer is not looked up.
    rw [Desk.enter, AList.lookup_insert_ne (fresh alarm rung)] at found
    exact punctual.due alarm rung ticket found

/-- An alarm that is set belongs to its visit, which still waits. -/
theorem waits (punctual : d.Punctual) (good : d.Good) {v : Visit κ} (visit : v ∈ d.visits)
    (still : v.alarm ∈ d.set) : d.Waits v := by
  obtain ⟨w, waits, same⟩ := punctual.live v.alarm still
  have equal := List.inj_on_of_nodup_map good.timers (good.visit_of_waits waits) visit
    (congrArg Alarm.ref same)
  exact equal ▸ waits

/-- The visit of an alarm whose message comes at once leaves. -/
theorem ring_expire (punctual : d.Punctual) (good : d.Good) (silent : d.rung = [])
    {v : Visit κ} (visit : v ∈ d.visits) (still : v.alarm ∈ d.set) :
    (d.ring v.alarm).expire v.alarm reply =
      d.leave v.key v.caller reply (d.set.erase v.alarm) d.rung := by
  have found : (d.ring v.alarm).waiting.lookup v.alarm.key = some v.ticket :=
    punctual.waits good visit still
  have gone : (d.rung ++ [v.alarm]).erase v.alarm = d.rung := by
    rw [silent, List.nil_append, List.erase_cons_head]
  rw [Desk.expire, found]
  simp only [Desk.leave, Desk.ring, gone]
  rfl

end Punctual

/-- Nobody is left where nobody waits. -/
theorem waiting_empty (nobody : ∀ v, ¬d.Waits v) : d.waiting = ∅ := by
  apply AList.ext
  apply List.eq_nil_iff_forall_not_mem.mpr
  rintro ⟨key, ticket⟩ member
  exact nobody ⟨ticket.caller, key, ticket.timer⟩ (AList.mem_lookup_iff.mpr member)

theorem set_nil (punctual : d.Punctual) (nobody : ∀ v, ¬d.Waits v) : d.set = [] := by
  apply List.eq_nil_iff_forall_not_mem.mpr
  intro alarm member
  obtain ⟨v, waits, _⟩ := punctual.live alarm member
  exact nobody v waits

/-- From one state to another, those who have entered are answered for the reason `P` only. -/
def Gives (P : Visit κ → ρ → Prop) (d e : Desk κ ρ) : Prop :=
  e.visits = d.visits ∧ ∃ new, e.replies = d.replies ++ new ∧
    ∀ v ∈ d.visits, ∀ r, (v.caller, r) ∈ new → P v r

namespace Gives

variable {P Q : Visit κ → ρ → Prop} {e f : Desk κ ρ}

omit [DecidableEq κ] in
theorem refl : Gives P d d := ⟨rfl, [], by simp, by simp⟩

omit [DecidableEq κ] in
theorem mono (gives : Gives P d e) (weaker : ∀ v r, P v r → Q v r) : Gives Q d e := by
  obtain ⟨visits, new, split, reasons⟩ := gives
  exact ⟨visits, new, split, fun v visit r member => weaker v r (reasons v visit r member)⟩

omit [DecidableEq κ] in
theorem trans (first : Gives P d e) (second : Gives P e f) : Gives P d f := by
  obtain ⟨visits, new, split, reasons⟩ := first
  obtain ⟨visits', new', split', reasons'⟩ := second
  refine ⟨visits'.trans visits, new ++ new', ?_, ?_⟩
  · rw [split', split, List.append_assoc]
  · intro v visit r member
    rcases List.mem_append.mp member with early | late
    · exact reasons v visit r early
    · exact reasons' v (visits ▸ visit) r late

omit [DecidableEq κ] in
theorem tell (others : ∀ v ∈ d.visits, ∀ r ∈ new, r.1 ≠ v.caller) : Gives P d (d.tell new) :=
  ⟨rfl, new, rfl, fun v visit _ member => absurd rfl (others v visit _ member)⟩

theorem leave (good : d.Good) (found : d.waiting.lookup key = some ticket)
    (reason : ∀ v, d.Waits v → v.key = key → P v reply) :
    Gives P d (d.leave key ticket.caller reply set rung) := by
  refine ⟨rfl, [(ticket.caller, reply)], rfl, fun v visit r member => ?_⟩
  obtain ⟨same, rfl⟩ := Prod.ext_iff.mp (List.mem_singleton.mp member)
  obtain ⟨waits, owner⟩ := (good.waits_iff_key found visit).mp same
  exact reason v waits owner

theorem answer (good : d.Good) :
    Gives (fun v r => v.key = key ∧ r = reply) d (d.answer key reply) := by
  unfold Desk.answer
  split
  · exact refl
  next ticket found => exact leave good found fun v _ same => ⟨same, rfl⟩

theorem expire (good : d.Good) (punctual : d.Punctual) {alarm : Alarm κ}
    (rung : alarm ∈ d.rung) :
    Gives (fun v r => v.alarm = alarm ∧ r = reply) d (d.expire alarm reply) := by
  unfold Desk.expire
  split
  · exact ⟨rfl, [], by simp, by simp⟩
  next ticket found =>
    refine leave good found fun v waits same => ⟨?_, rfl⟩
    have equal : some v.ticket = some ticket := by
      rw [← found, ← same]
      exact waits.symm
    cases equal
    have early : v.timer = alarm.ref := punctual.due alarm rung _ found
    rw [Visit.alarm, early, same]

omit [DecidableEq κ] in
/-- Who is not given a reason has the answers as before. -/
theorem answers (gives : Gives P d e) {v : Visit κ} (visit : v ∈ d.visits)
    (silent : ∀ r, ¬P v r) : e.answers v = d.answers v := by
  obtain ⟨_, new, split, reasons⟩ := gives
  have none : (new.map Prod.fst).count v.caller = 0 := by
    rw [List.count_eq_zero, List.mem_map]
    rintro ⟨⟨caller, r⟩, member, rfl⟩
    exact silent r (reasons v visit r member)
  simp only [Desk.answers, split, List.map_append, List.count_append, none, Nat.add_zero]

theorem answerAll (good : d.Good) (replies : κ → ρ) :
    Gives (fun v r => r = replies v.key) d (d.answerAll replies) := by
  refine ⟨rfl, _, rfl, fun v visit r member => ?_⟩
  obtain ⟨entry, listed, pair⟩ := List.mem_map.mp member
  obtain ⟨same, rfl⟩ := Prod.ext_iff.mp pair
  have found := AList.mem_lookup_iff.mpr listed
  rw [((good.waits_iff_key found visit).mp same.symm).2]

end Gives

end Desk

end Correlation
