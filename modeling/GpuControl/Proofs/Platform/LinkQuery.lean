import GpuControl.Platform.SimulatedBus
import Mathlib.Algebra.BigOperators.Group.List.Basic
import Mathlib.Data.ENat.Lattice

namespace GpuControl

/-- What a platform says when it is asked for a link. -/
abbrev LinkAnswer := Except PlatformError PcieLink

/-- A failure that may pass; that of a platform that cannot tell does not. -/
def LinkAnswer.IsTransient : LinkAnswer → Prop
  | .ok _ => False
  | .error e => e.kind ≠ .unsupported

instance : DecidablePred LinkAnswer.IsTransient
  | .ok _ => inferInstanceAs (Decidable False)
  | .error _ => inferInstanceAs (Decidable (_ ≠ _))

open Classical in
/-- The number of transient failures that come first, without end if nothing else comes. -/
noncomputable def leadingTransient (answers : Nat → LinkAnswer) : ENat :=
  if h : ∃ n, ¬(answers n).IsTransient then Nat.find h else ⊤

section LeadingTransient

variable {answers : Nat → LinkAnswer} {n : Nat}

/-- So many failures come first, if the answer behind them is of another kind. -/
theorem leadingTransient_eq_coe_iff : leadingTransient answers = n ↔
    (∀ i < n, (answers i).IsTransient) ∧ ¬(answers n).IsTransient := by
  classical
  unfold leadingTransient
  split
  case isTrue h =>
    rw [ENat.natCast_inj, Nat.find_eq_iff, and_comm]
    simp only [not_not]
  case isFalse h =>
    constructor
    · intro htop
      exact absurd htop.symm (ENat.natCast_ne_top n)
    · rintro ⟨-, hsettled⟩
      exact absurd ⟨n, hsettled⟩ h

/-- More than so many come first, whether or not they ever end. -/
theorem lt_leadingTransient_iff : n < leadingTransient answers ↔
    ∀ i ≤ n, (answers i).IsTransient := by
  classical
  unfold leadingTransient
  split
  case isTrue h =>
    rw [Nat.cast_lt, Nat.lt_find_iff]
    simp only [not_not]
  case isFalse h =>
    simp only [not_exists, not_not] at h
    exact iff_of_true (ENat.natCast_lt_top n) fun i _ => h i

end LeadingTransient

theorem toOption_eq_some_iff {ε α : Type} {result : Except ε α} {a : α} :
    result.toOption = some a ↔ result = .ok a := by
  cases result with
  | error e => exact ⟨nofun, nofun⟩
  | ok b => rw [Except.toOption, Option.some.injEq, Except.ok.injEq]

namespace Platform

variable {σ : Type} (p : Platform σ) (addr : PciAddress)

/-- The state after `n` questions for the link. -/
def afterQuestions : Nat → σ → σ
  | 0, s => s
  | n + 1, s => afterQuestions n (p.linkStatus s addr).2

/-- What is answered to the question that comes after `n` others. -/
def linkAnswer (s : σ) (n : Nat) : LinkAnswer := (p.linkStatus (p.afterQuestions addr n s) addr).1

/-- The platform with a log of what it has answered about links. -/
def linkLogged : Platform (σ × List LinkAnswer) where
  name := p.name
  readConfig := fun s => p.readConfig s.1
  mapPhysical := fun s phys len =>
    let reply := p.mapPhysical s.1 phys len
    (reply.1, reply.2, s.2)
  unmap := fun s mapping => (p.unmap s.1 mapping, s.2)
  linkStatus := fun s addr =>
    let reply := p.linkStatus s.1 addr
    (reply.1, reply.2, s.2 ++ [reply.1])
  setPerformanceLevel := fun s addr level =>
    let reply := p.setPerformanceLevel s.1 addr level
    (reply.1, reply.2, s.2)

/-- Asks for links one after the other, each with retries of its own. -/
def runQueries (queries : List (PciAddress × UInt32)) (s : σ) : σ :=
  queries.foldl (fun s query => (p.queryLink s query.1 query.2).2) s

variable {p addr} {s : σ} {attempts n : Nat}

/-- One question: a transient failure is asked again, anything else ends the query. -/
theorem queryLinkUpTo_succ (p : Platform σ) (addr : PciAddress) (attempts : Nat) (s : σ) :
    p.queryLinkUpTo addr (attempts + 1) s =
      if (p.linkAnswer addr s 0).IsTransient then
        p.queryLinkUpTo addr attempts (p.linkStatus s addr).2
      else ((p.linkAnswer addr s 0).toOption, (p.linkStatus s addr).2) := by
  have hfirst : p.linkAnswer addr s 0 = (p.linkStatus s addr).1 := rfl
  rw [queryLinkUpTo, hfirst]
  obtain ⟨answer, s'⟩ := p.linkStatus s addr
  cases answer with
  | ok link => rfl
  | error e =>
    by_cases hkind : e.kind = .unsupported
    · exact (if_pos hkind).trans (if_neg (not_not_intro hkind)).symm
    · exact (if_neg hkind).trans (if_pos hkind).symm

/-- As long as failures may pass, every attempt is used up. -/
theorem queryLinkUpTo_exhausted
    (htransient : ∀ i < attempts, (p.linkAnswer addr s i).IsTransient) :
    p.queryLinkUpTo addr attempts s = (none, p.afterQuestions addr attempts s) := by
  induction attempts generalizing s with
  | zero => rfl
  | succ attempts ih =>
    rw [queryLinkUpTo_succ, if_pos (htransient 0 (Nat.succ_pos _))]
    exact ih fun i hi => htransient (i + 1) (Nat.succ_lt_succ hi)

/-- Another answer within the attempts ends the query, and is its result. -/
theorem queryLinkUpTo_settled (hn : n < attempts)
    (htransient : ∀ i < n, (p.linkAnswer addr s i).IsTransient)
    (hsettled : ¬(p.linkAnswer addr s n).IsTransient) :
    p.queryLinkUpTo addr attempts s =
      ((p.linkAnswer addr s n).toOption, p.afterQuestions addr (n + 1) s) := by
  induction attempts generalizing s n with
  | zero => exact absurd hn (Nat.not_lt_zero n)
  | succ attempts ih =>
    rw [queryLinkUpTo_succ]
    cases n with
    | zero =>
      rw [if_neg hsettled]
      rfl
    | succ n =>
      rw [if_pos (htransient 0 (Nat.succ_pos _))]
      exact ih (Nat.lt_of_succ_lt_succ hn)
        (fun i hi => htransient (i + 1) (Nat.succ_lt_succ hi)) hsettled

/-- What a query asks and what it comes to: the first answer that is no transient failure, if the
retries reach it. -/
theorem queryLink_eq (p : Platform σ) (s : σ) (addr : PciAddress) (retries : UInt32) :
    ∃ questions : Nat,
      (questions : ENat) = min (leadingTransient (p.linkAnswer addr s)) retries.toNat + 1 ∧
      (p.queryLink s addr retries).2 = p.afterQuestions addr questions s ∧
      ∀ link, (p.queryLink s addr retries).1 = some link ↔
        ∃ n ≤ retries.toNat, leadingTransient (p.linkAnswer addr s) = n ∧
          p.linkAnswer addr s n = .ok link := by
  rcases lt_or_ge (retries.toNat : ENat) (leadingTransient (p.linkAnswer addr s)) with hlt | hle
  -- The retries run out first.
  · have htransient := lt_leadingTransient_iff.1 hlt
    have hquery : p.queryLink s addr retries = _ :=
      queryLinkUpTo_exhausted fun i hi => htransient i (Nat.le_of_lt_succ hi)
    refine ⟨retries.toNat + 1, ?_, ?_, fun link => ?_⟩
    · rw [min_eq_right hlt.le]
      rfl
    · rw [hquery]
    · rw [hquery]
      refine ⟨nofun, fun ⟨n, hn, hk, _⟩ => ?_⟩
      rw [hk, Nat.cast_lt] at hlt
      omega
  -- Some other answer ends the query.
  · obtain ⟨n, hk⟩ := ENat.ne_top_iff_exists.1 (ne_top_of_le_ne_top (ENat.natCast_ne_top _) hle)
    have hn : n ≤ retries.toNat := by rwa [← hk, Nat.cast_le] at hle
    obtain ⟨htransient, hsettled⟩ := leadingTransient_eq_coe_iff.1 hk.symm
    have hquery : p.queryLink s addr retries = _ :=
      queryLinkUpTo_settled (Nat.lt_succ_of_le hn) htransient hsettled
    refine ⟨n + 1, ?_, ?_, fun link => ?_⟩
    · rw [min_eq_left hle, ← hk]
      rfl
    · rw [hquery]
    · rw [hquery, ← hk, toOption_eq_some_iff]
      constructor
      · exact fun hanswer => ⟨n, hn, rfl, hanswer⟩
      · rintro ⟨other, -, hother, hanswer⟩
        rwa [ENat.natCast_inj.1 hother]

/-- The log grows by the answers, in their order. -/
theorem afterQuestions_linkLogged (p : Platform σ) (addr : PciAddress) (n : Nat) (s : σ)
    (log : List LinkAnswer) :
    p.linkLogged.afterQuestions addr n (s, log) =
      (p.afterQuestions addr n s, log ++ (List.range n).map (p.linkAnswer addr s)) := by
  induction n generalizing s log with
  | zero => exact Prod.ext rfl (List.append_nil log).symm
  | succ n ih =>
    rw [afterQuestions, linkLogged]
    refine (ih _ _).trans (Prod.ext rfl ?_)
    rw [List.range_succ_eq_map, List.map_cons, List.map_map, List.append_assoc]
    rfl

theorem linkAnswer_linkLogged (p : Platform σ) (addr : PciAddress) (s : σ)
    (log : List LinkAnswer) : p.linkLogged.linkAnswer addr (s, log) = p.linkAnswer addr s := by
  funext n
  rw [linkAnswer, afterQuestions_linkLogged]
  rfl

/-- The log does not change what is asked and answered. -/
theorem queryLink_linkLogged (p : Platform σ) (s : σ) (log : List LinkAnswer) (addr : PciAddress)
    (retries : UInt32) :
    ∃ questions : Nat,
      (questions : ENat) = min (leadingTransient (p.linkAnswer addr s)) retries.toNat + 1 ∧
      p.linkLogged.queryLink (s, log) addr retries =
        ((p.queryLink s addr retries).1, (p.queryLink s addr retries).2,
          log ++ (List.range questions).map (p.linkAnswer addr s)) := by
  obtain ⟨questions, hquestions, hstate, hresult⟩ := p.queryLink_eq s addr retries
  obtain ⟨asked, hasked, hstate', hresult'⟩ := p.linkLogged.queryLink_eq (s, log) addr retries
  rw [linkAnswer_linkLogged] at hasked hresult'
  have hsame : asked = questions := ENat.natCast_inj.1 (hasked.trans hquestions.symm)
  rw [afterQuestions_linkLogged, hsame, ← hstate] at hstate'
  refine ⟨questions, hquestions, Prod.ext (Option.ext fun link => ?_) hstate'⟩
  rw [hresult', hresult]

end Platform

namespace SimulatedBus

variable (bus : SimulatedBus) (addr : PciAddress) {n : Nat}

/-- The bus after `n` questions: all of them were counted, and each took a scripted failure away as
long as there was one. -/
def asked (n : Nat) : SimulatedBus :=
  { bus with
    linkQueries := bus.linkQueries + UInt32.ofNat n
    linkFailures := UInt32.ofNat (bus.linkFailures.toNat - n) }

theorem toNat_linkFailures_asked (n : Nat) :
    (bus.asked n).linkFailures.toNat = bus.linkFailures.toNat - n :=
  UInt32.toNat_ofNat_of_lt' (Nat.lt_of_le_of_lt (Nat.sub_le _ n) bus.linkFailures.toNat_lt)

/-- Questions add up. -/
theorem asked_asked (m n : Nat) : (bus.asked m).asked n = bus.asked (m + n) := by
  rw [asked, toNat_linkFailures_asked, Nat.sub_sub]
  simp only [asked, UInt32.add_assoc, UInt32.ofNat_add]

/-- As long as the count of the questions does not start again, it grows by every one of them. -/
theorem toNat_linkQueries_asked (hroom : bus.linkQueries.toNat + n < UInt32.size) :
    (bus.asked n).linkQueries.toNat = bus.linkQueries.toNat + n := by
  have hn : (UInt32.ofNat n).toNat = n := UInt32.toNat_ofNat_of_lt' (by omega)
  rw [asked, UInt32.toNat_add, hn]
  exact Nat.mod_eq_of_lt hroom

/-- A question is counted, and takes a scripted failure away if there is one. -/
theorem linkStatus_snd : bus.linkStatus.2 = bus.asked 1 := by
  unfold linkStatus
  dsimp only
  split
  case isTrue hfails =>
    have hone : 1 ≤ bus.linkFailures := UInt32.le_iff_toNat_le.2 (UInt32.lt_iff_toNat_lt.1 hfails)
    have hfailures : bus.linkFailures - 1 = UInt32.ofNat (bus.linkFailures.toNat - 1) := by
      apply UInt32.toNat_inj.1
      rw [UInt32.toNat_sub_of_le _ _ hone]
      exact (bus.toNat_linkFailures_asked 1).symm
    rw [hfailures]
    rfl
  case isFalse hnone =>
    have hzero : bus.linkFailures.toNat = 0 := by
      rw [UInt32.lt_iff_toNat_lt] at hnone
      exact Nat.eq_zero_of_not_pos hnone
    have hfailures : bus.linkFailures = UInt32.ofNat (bus.linkFailures.toNat - 1) := by
      apply UInt32.toNat_inj.1
      rw [hzero]
      rfl
    rw [asked, ← hfailures]
    split <;> rfl

theorem afterQuestions_eq (n : Nat) : platform.afterQuestions addr n bus = bus.asked n := by
  induction n generalizing bus with
  | zero =>
    have hfailures : UInt32.ofNat (bus.linkFailures.toNat - 0) = bus.linkFailures :=
      UInt32.ofNat_toNat
    rw [asked, hfailures]
    exact congrArg (fun queries => { bus with linkQueries := queries }) (UInt32.add_zero _).symm
  | succ n ih =>
    have hstatus : platform.linkStatus bus addr = bus.linkStatus := rfl
    rw [Platform.afterQuestions, hstatus, linkStatus_snd, ih, asked_asked, Nat.add_comm]

theorem linkStatus_fst : bus.linkStatus.1 =
    if 0 < bus.linkFailures then .error ⟨.other, "link training in progress"⟩
    else bus.link.elim (.error ⟨.unsupported, "no simulated link"⟩) .ok := by
  unfold linkStatus
  dsimp only
  split
  · rfl
  · cases bus.link <;> rfl

/-- The scripted failures are answered first, and after them the link, if the bus has one. -/
theorem linkAnswer_eq (n : Nat) :
    platform.linkAnswer addr bus n =
      if n < bus.linkFailures.toNat then .error ⟨.other, "link training in progress"⟩
      else bus.link.elim (.error ⟨.unsupported, "no simulated link"⟩) .ok := by
  have hfails : 0 < (bus.asked n).linkFailures ↔ n < bus.linkFailures.toNat := by
    rw [UInt32.lt_iff_toNat_lt, toNat_linkFailures_asked]
    exact Nat.sub_pos_iff_lt
  rw [Platform.linkAnswer, afterQuestions_eq]
  exact (linkStatus_fst _).trans (if_congr hfails rfl rfl)

theorem isTransient_linkAnswer_iff :
    (platform.linkAnswer addr bus n).IsTransient ↔ n < bus.linkFailures.toNat := by
  rw [linkAnswer_eq]
  split
  case isTrue hfails => exact iff_of_true (by decide) hfails
  case isFalse hanswers =>
    refine iff_of_false ?_ hanswers
    cases bus.link with
    | none => exact not_not_intro rfl
    | some link => exact not_false

/-- The failures that were scripted come first. -/
theorem leadingTransient_linkAnswer :
    leadingTransient (platform.linkAnswer addr bus) = bus.linkFailures.toNat := by
  rw [leadingTransient_eq_coe_iff]
  constructor
  · exact fun i hi => (bus.isTransient_linkAnswer_iff addr).2 hi
  · exact mt (bus.isTransient_linkAnswer_iff addr).1 (Nat.lt_irrefl _)

/-- Of the first answers as many are transient failures as were scripted, up to all of them. -/
theorem countP_isTransient (count : Nat) :
    ((List.range count).map (platform.linkAnswer addr bus)).countP (fun a => a.IsTransient) =
      min bus.linkFailures.toNat count := by
  induction count with
  | zero => exact (Nat.min_zero _).symm
  | succ count ih =>
    rw [List.range_succ, List.map_append, List.countP_append, ih, List.map_singleton,
      List.countP_singleton]
    simp only [isTransient_linkAnswer_iff, decide_eq_true_eq]
    split <;> omega

/-- Once the scripted failures are over, the link is answered if there is one. -/
theorem linkAnswer_eq_ok_iff (hle : bus.linkFailures.toNat ≤ n) {link : PcieLink} :
    platform.linkAnswer addr bus n = .ok link ↔ bus.link = some link := by
  rw [linkAnswer_eq, if_neg (Nat.not_lt.2 hle)]
  cases bus.link with
  | none => exact ⟨nofun, nofun⟩
  | some other => rw [Option.elim_some, Except.ok.injEq, Option.some.injEq]

/-- The questions of a query: one more than the failures it meets with. -/
def questions (retries : UInt32) : Nat := min bus.linkFailures.toNat retries.toNat + 1

theorem coe_questions (retries : UInt32) : (bus.questions retries : ENat) =
    min (leadingTransient (platform.linkAnswer addr bus)) retries.toNat + 1 := by
  rw [leadingTransient_linkAnswer, questions]
  exact_mod_cast rfl

/-- A query on a simulated bus as a whole: the link if the retries outlast the scripted failures,
and the bus after as many questions as it takes. -/
theorem queryLink_eq (retries : UInt32) :
    platform.queryLink bus addr retries =
      (if bus.linkFailures.toNat ≤ retries.toNat then bus.link else none,
        bus.asked (bus.questions retries)) := by
  obtain ⟨asked, hasked, hstate, hresult⟩ := platform.queryLink_eq bus addr retries
  cases ENat.natCast_inj.1 (hasked.trans (bus.coe_questions addr retries).symm)
  rw [afterQuestions_eq] at hstate
  refine Prod.ext (Option.ext fun link => ?_) hstate
  rw [hresult, leadingTransient_linkAnswer]
  constructor
  · rintro ⟨n, hn, hfailures, hanswer⟩
    have hn' : bus.linkFailures.toNat = n := ENat.natCast_inj.1 hfailures
    rw [if_pos (hn'.trans_le hn)]
    exact (bus.linkAnswer_eq_ok_iff addr hn'.le).1 hanswer
  · intro hlink
    split at hlink
    case isTrue hle =>
      exact ⟨_, hle, rfl, (bus.linkAnswer_eq_ok_iff addr (Nat.le_refl _)).2 hlink⟩
    case isFalse => cases hlink

theorem queryLink_linkLogged_snd (log : List LinkAnswer) (retries : UInt32) :
    (platform.linkLogged.queryLink (bus, log) addr retries).2 =
      (bus.asked (bus.questions retries),
        log ++ (List.range (bus.questions retries)).map (platform.linkAnswer addr bus)) := by
  obtain ⟨asked, hasked, hquery⟩ := platform.queryLink_linkLogged bus log addr retries
  cases ENat.natCast_inj.1 (hasked.trans (bus.coe_questions addr retries).symm)
  rw [hquery, queryLink_eq]

/-- However many links are asked for, the log grows by every question, and each scripted failure is
answered once or is still to come. -/
theorem runQueries_linkLogged (queries : List (PciAddress × UInt32)) (log : List LinkAnswer) :
    let run := platform.linkLogged.runQueries queries (bus, log)
    (∃ count, run.1 = bus.asked count ∧ run.2.length = log.length + count) ∧
    run.1.linkFailures.toNat + run.2.countP (fun a => a.IsTransient) =
      bus.linkFailures.toNat + log.countP (fun a => a.IsTransient) ∧
    run.1.linkFailures.toNat =
      bus.linkFailures.toNat - (queries.map fun query => query.2.toNat + 1).sum := by
  induction queries generalizing bus log with
  | nil => exact ⟨⟨0, (bus.afterQuestions_eq ⟨0, 0, 0⟩ 0), rfl⟩, rfl, rfl⟩
  | cons query queries ih =>
    intro run
    -- The first query leaves another bus and a longer log to the others.
    have hrun : run = platform.linkLogged.runQueries queries _ :=
      congrArg (platform.linkLogged.runQueries queries)
        (bus.queryLink_linkLogged_snd query.1 log query.2)
    obtain ⟨⟨count, hasked, hlength⟩, hfailures, hleft⟩ := ih _ _
    rw [← hrun] at hasked hlength hfailures hleft
    rw [asked_asked] at hasked
    rw [List.length_append, List.length_map, List.length_range, Nat.add_assoc] at hlength
    rw [List.countP_append, countP_isTransient, toNat_linkFailures_asked] at hfailures
    rw [toNat_linkFailures_asked] at hleft
    rw [List.map_cons, List.sum_cons]
    dsimp only [questions] at hfailures hleft
    refine ⟨⟨_, hasked, hlength⟩, ?_, ?_⟩
    · omega
    · omega

end SimulatedBus

/-- A query for the link puts its question once more than there are transient failures before any
other answer, as far as its retries go, and returns the link that it comes to in this way. On a
simulated bus these failures are the scripted ones, so queries consume them one by one: none is
skipped and none is met with twice, however the retries are spread. The bus counts the questions in
32 bits, so the count tells their number until it starts again at zero. -/
theorem Platform.queryLink_exact :
    (∀ (σ : Type) (p : Platform σ) (s : σ) (addr : PciAddress) (retries : UInt32),
      let answers := p.linkAnswer addr s
      let k := leadingTransient answers
      let query := p.linkLogged.queryLink (s, []) addr retries
      query.1 = (p.queryLink s addr retries).1 ∧ query.2.1 = (p.queryLink s addr retries).2 ∧
      (query.2.2.length : ENat) = min k retries.toNat + 1 ∧
      query.2.2 = (List.range query.2.2.length).map answers ∧
      ∀ link, query.1 = some link ↔ ∃ n ≤ retries.toNat, k = n ∧ answers n = .ok link) ∧
    (∀ (bus : SimulatedBus) (addr : PciAddress) (retries : UInt32),
      let f := bus.linkFailures.toNat
      let query := SimulatedBus.platform.queryLink bus addr retries
      query.2.linkQueries = bus.linkQueries + UInt32.ofNat (min f retries.toNat + 1) ∧
      (bus.linkQueries.toNat + (min f retries.toNat + 1) < UInt32.size →
        query.2.linkQueries.toNat = bus.linkQueries.toNat + (min f retries.toNat + 1)) ∧
      query.2.linkFailures.toNat + min f (retries.toNat + 1) = f ∧
      query.1 = if f ≤ retries.toNat then bus.link else none) ∧
    ∀ (bus : SimulatedBus) (queries : List (PciAddress × UInt32)),
      let f := bus.linkFailures.toNat
      let run := SimulatedBus.platform.linkLogged.runQueries queries (bus, [])
      run.1.linkQueries = bus.linkQueries + UInt32.ofNat run.2.length ∧
      (bus.linkQueries.toNat + run.2.length < UInt32.size →
        run.1.linkQueries.toNat = bus.linkQueries.toNat + run.2.length) ∧
      run.1.linkFailures.toNat + run.2.countP (fun a => a.IsTransient) = f ∧
      run.1.linkFailures.toNat = f - (queries.map fun query => query.2.toNat + 1).sum := by
  refine ⟨?_, ?_, ?_⟩
  · intro σ p s addr retries answers k query
    obtain ⟨questions, hquestions, hquery⟩ := p.queryLink_linkLogged s [] addr retries
    obtain ⟨_, _, _, hresult⟩ := p.queryLink_eq s addr retries
    have hlog : query.2.2 = (List.range questions).map answers :=
      congrArg (·.2.2) hquery
    have hlength : query.2.2.length = questions := by
      rw [hlog, List.length_map, List.length_range]
    refine ⟨congrArg (·.1) hquery, congrArg (·.2.1) hquery, ?_, ?_, ?_⟩
    · rw [hlength]
      exact hquestions
    · rw [hlength]
      exact hlog
    · intro link
      rw [← hresult]
      exact iff_of_eq (congrArg (· = some link) (congrArg (·.1) hquery))
  · intro bus addr retries f query
    have hquery : query = _ := bus.queryLink_eq addr retries
    rw [hquery]
    refine ⟨rfl, bus.toNat_linkQueries_asked, ?_, rfl⟩
    rw [bus.toNat_linkFailures_asked, SimulatedBus.questions]
    omega
  · intro bus queries f run
    obtain ⟨⟨count, hasked, hlength⟩, hfailures, hleft⟩ := bus.runQueries_linkLogged queries []
    have hcount : run.2.length = count := hlength.trans (Nat.zero_add count)
    have hrun : run.1 = bus.asked count := hasked
    refine ⟨?_, fun hroom => ?_, hfailures, hleft⟩
    · rw [hrun, hcount]
      rfl
    · rw [hcount] at hroom ⊢
      rw [hrun, bus.toNat_linkQueries_asked hroom]

/-- A link that trains through three questions. -/
def SimulatedBus.training : SimulatedBus where
  link := some (.ofWidth 4 16)
  linkFailures := 3
  linkQueries := 5

/-- The first query asks two of the three questions and gives up, the second asks the third and then
has the link. -/
theorem Platform.queryLink_exact_sample :
    let bus := SimulatedBus.training
    let addr : PciAddress := ⟨3, 0, 0⟩
    let query := SimulatedBus.platform.queryLink bus addr 1
    let run := SimulatedBus.platform.linkLogged.runQueries [(addr, 1), (addr, 8)] (bus, [])
    bus.linkQueries.toNat + 2 < UInt32.size ∧ query.1 = none ∧ query.2.linkQueries.toNat = 7 ∧
    query.2.linkFailures.toNat = 1 ∧
    (SimulatedBus.platform.queryLink query.2 addr 8).1 = bus.link ∧
    bus.linkQueries.toNat + run.2.length < UInt32.size ∧ run.2.length = 4 ∧
    run.2.countP (fun a => a.IsTransient) = 3 ∧ run.1.linkQueries.toNat = 9 ∧
    run.1.linkFailures.toNat = 0 := by
  intro bus addr query run
  obtain ⟨-, hquery, hrun⟩ := Platform.queryLink_exact
  obtain ⟨-, hcount, hleft, hnone⟩ := hquery bus addr 1
  obtain ⟨-, -, -, hlink⟩ := hquery query.2 addr 8
  obtain ⟨-, hcounts, hfailures, hdrained⟩ := hrun bus [(addr, 1), (addr, 8)]
  have hone : query.2.linkFailures.toNat = 1 := Nat.add_right_cancel (hleft.trans rfl)
  have hkept : query.2.link = bus.link := congrArg (·.2.link) (bus.queryLink_eq addr 1)
  have hlength : run.2.length = 4 := by
    subst bus addr run
    decide +kernel
  have hroom : bus.linkQueries.toNat + run.2.length < UInt32.size := by
    rw [hlength]
    decide
  rw [hone, hkept] at hlink
  rw [hdrained] at hfailures
  refine ⟨by decide, hnone, hcount (by decide), hone, hlink, hroom, hlength, ?_, ?_, hdrained⟩
  · exact (Nat.zero_add _).symm.trans hfailures
  · rw [hcounts hroom, hlength]
    rfl

end GpuControl
