import CallEngine.Proofs.Epochs
import CallEngine.Proofs.FrameTiling

/-!
# The reported values

What can be read off a context as reported is what was reported last, unless a small frame was
opened since, which takes the buffer for its arguments and leaves nothing reported. Arguments are
stored in the same slots without a new epoch, but only while nothing is reported.
-/

namespace CallEngine

/-- The values that were reported last, none if a frame was opened in the buffer since. -/
def History.report : History → List Value
  | [] => []
  | .opened f _ :: earlier => if f.isBufferBacked then [] else report earlier
  | .stored _ _ _ :: earlier => report earlier
  | .reported values :: _ => values

/-- All ways of reading the reported values off a context agree with a list of values. -/
structure Context.Reports (c : Context) (report : List Value) : Prop where
  count : c.values.count = report.length
  all : c.values.toList = report
  /-- Past the last value there is none. -/
  get : ∀ index, c.values.get index = report[index]?.getD .noValue
  /-- The first value is nil if there is none. -/
  primary : c.values.primary = report.head?.getD .nil

namespace Context.Reports

variable {c c' : Context} {report : List Value}

/-- The reported values are in the first slots of the buffer. -/
theorem ofSlots (hcount : c.values.count = report.length)
    (hslots : ∀ index < report.length, c.values.slots[index]? = report[index]?) :
    c.Reports report := by
  refine ⟨hcount, ?_, fun index => ?_, ?_⟩
  · have htake : c.values.toList = c.values.slots.toList.take report.length := by
      simp [ValueChannel.toList, hcount]
    apply List.ext_getElem?
    intro index
    rw [htake, List.getElem?_take, Array.getElem?_toList]
    by_cases hindex : index < report.length
    · rw [if_pos hindex]
      exact hslots index hindex
    · rw [if_neg hindex, List.getElem?_eq_none (Nat.le_of_not_lt hindex)]
  · rw [ValueChannel.get, hcount]
    by_cases hindex : index < report.length
    · rw [if_pos hindex, ValueChannel.slot, hslots index hindex]
      simp [hindex]
    · rw [if_neg hindex, List.getElem?_eq_none (Nat.le_of_not_lt hindex)]
      rfl
  · rw [ValueChannel.primary, hcount]
    cases report with
    | nil => rfl
    | cons value rest =>
      rw [if_neg (by simp), ValueChannel.slot, hslots 0 (by simp)]
      rfl

/-- Nothing is reported if the number of reported values is zero. -/
theorem none (hcount : c.values.count = 0) : c.Reports [] := by
  refine ofSlots hcount fun index hindex => ?_
  cases hindex

/-- The same values are reported if the channel is the same. -/
theorem congr (h : c.Reports report) (hvalues : c'.values = c.values) : c'.Reports report := by
  constructor
  · rw [hvalues]
    exact h.count
  · rw [hvalues]
    exact h.all
  · rw [hvalues]
    exact h.get
  · rw [hvalues]
    exact h.primary

/-- A quiet change leaves the reported values alone. -/
theorem quiet (h : c.Reports report) (hquiet : c.Quiet c') : c'.Reports report := by
  obtain ⟨_, _, _, _, rfl⟩ := hquiet
  exact h.congr rfl

end Context.Reports

namespace Tracked

variable {settings : Settings} {s s' : Tracked} {f : Frame}

/-- The values reported on a context are those of its history. -/
def ReportKept (s : Tracked) : Prop := s.context.Reports s.history.report

namespace ReportKept

/-- Reporting values writes them to the front of the buffer. -/
theorem reported (hsized : Sized s) {values : List Value}
    (hroom : values.length ≤ max s.context.values.capacity 1)
    (hvalues : s'.context.values =
      { slots := ValueChannel.writeFrom s.context.values.slots 0 values
        count := values.length
        epoch := s.context.values.epoch + 1 })
    (hhistory : s'.history = .reported values :: s.history) : ReportKept s' := by
  have hpositive := hsized.positive
  have hfits := hsized.fits
  have hsize : s.context.values.capacity = s.context.values.slots.size := rfl
  rw [ReportKept, hhistory]
  refine .ofSlots (by rw [hvalues]; rfl) fun index hindex => ?_
  have hlt : index < values.length := hindex
  rw [hvalues]
  change (ValueChannel.writeFrom s.context.values.slots 0 values)[index]? = values[index]?
  rw [ValueChannel.getElem?_writeFrom, if_pos (by omega), Nat.sub_zero]

/-- Storing an argument changes nothing that is reported: in the buffer, nothing is. -/
theorem stored (h : ReportKept s) (hepochs : Epochs s) {index : Nat} (value : Value)
    (hissued : f ∈ s.history.issued) (haccess : s.context.checkAccess f index = .ok ()) :
    (s.context.writeSlot f index value).Reports s.history.report := by
  cases hbase : f.base with
  | values =>
    have hepoch := (Context.checkAccess_eq_ok.mp haccess).2.2 hbase
    have hcount := hepochs.claimed f hissued hbase hepoch
    have hnone : s.history.report = [] := by
      rw [← List.length_eq_zero_iff, ← h.count, hcount]
    rw [Context.writeSlot_buffer hbase, hnone]
    exact .none hcount
  | stack offset =>
    rw [Context.writeSlot_stack hbase]
    exact h.congr rfl

/-- Every change keeps what is reported in agreement with the history. -/
theorem change (h : ReportKept s) (hsized : Sized s) (hepochs : Epochs s) (hchange : Change s s') :
    ReportKept s' := by
  cases hchange with
  | quiet safetyOpen guard journal => exact h.congr rfl
  | opened hopened =>
    cases hopened with
    | buffer hsmall => exact .none rfl
    | stack hlarge => exact h.congr rfl
  | activated hrecord => exact h.congr rfl
  | stored f index value hissued haccess => exact h.stored hepochs value hissued haccess
  | reported values hroom => exact reported hsized hroom rfl rfl
  | closed hissued hrecord hlast => exact h.congr rfl

end ReportKept

/-- What is reported on a context always agrees with its history. -/
theorem Reachable.reportKept (h : Reachable settings s) : ReportKept s := by
  have hkept : Epochs s ∧ ReportKept s := by
    refine h.holds_ordered (P := fun s => Epochs s ∧ ReportKept s) (fun first hfirst => ?_) ?_
    · obtain ⟨id, region, hcontext⟩ := hfirst.eq_create
      refine ⟨hfirst.epochs, ?_⟩
      rw [ReportKept, hfirst.history, hcontext]
      exact .none rfl
    · intro s s' hcoherent hsized hchange hs
      obtain ⟨hepochs, hreport⟩ := hs
      exact ⟨hepochs.change hcoherent hchange, hreport.change hsized hepochs hchange⟩
  exact hkept.2

/-- An opening of a frame has left these values reported, unless the frame is in the buffer. -/
def SparesReport (report : List Value) : Outcome Context FrameError Frame → Prop
  | .done f c => f.base ≠ .values → c.Reports report
  | .failed _ c => c.Reports report
  | .fatal _ _ => True

/-- Every opening of a frame leaves the reported values alone, unless the frame is in the buffer. -/
theorem SparesReport.ofOpens {c : Context} {report args : List Value}
    {o : Outcome Context FrameError Frame} (h : c.Reports report) (hopens : c.Opens args o) :
    SparesReport report o := by
  cases hopens with
  | buffer hsmall => exact fun hbase => absurd rfl hbase
  | stack hlarge => exact fun _ => h.congr rfl
  | refused error hquiet => exact h.quiet hquiet
  | fatal message c' => trivial

/-- Operations that report nothing, and open no frame in the buffer, leave these values reported,
however they end. -/
structure Undisturbed (s : Tracked) (report : List Value) : Prop where
  setArg : ∀ f ∈ s.history.issued, ∀ index value,
    (Context.setArg f index value s.context).Settles (·.Reports report)
  openFrame : ∀ argc, SparesReport report (Context.openFrame argc s.context)
  openFrameWith : ∀ args, SparesReport report (Context.openFrameWith args s.context)
  closeFrame : ∀ f, (Context.closeFrame (ε := EngineError) f s.context).Settles (·.Reports report)
  safePoint : (Context.safePoint s.context).Settles (·.Reports report)
  /-- Values for which there is no room are refused. -/
  setValues : ∀ values e c, Context.setValues values s.context = .failed e c → c.Reports report

/-- The values reported on a context are those that were reported last, none if a frame was opened in
the buffer since, and nothing else disturbs them. -/
theorem reported_values (h : Reachable settings s) :
    s.context.Reports s.history.report ∧ Undisturbed s s.history.report := by
  have hreport : s.context.Reports s.history.report := h.reportKept
  refine ⟨hreport, ?_, fun argc => ?_, fun args => ?_, fun f => ?_, ?_, fun values e c hrefused => ?_⟩
  · intro f hissued index value
    rw [Context.setArg_apply]
    cases haccess : s.context.checkAccess f index with
    | ok _ => exact h.reportKept.stored h.epochs value hissued haccess
    | error e => exact hreport
  · exact .ofOpens hreport (Context.openFrame_opens argc s.context)
  · exact .ofOpens hreport (Context.openFrameWith_opens args s.context)
  · refine (Context.closeFrame_settles f s.context).imp fun c hclosed => ?_
    obtain ⟨record, _, _, hquiet⟩ := hclosed
    have hpopped : (s.context.withoutFrame f record).Reports s.history.report := hreport.congr rfl
    exact hpopped.quiet hquiet
  · exact (Context.safePoint_quiet s.context).imp fun c hquiet => hreport.quiet hquiet
  · rw [Context.setValues_apply] at hrefused
    cases hset : s.context.values.set values with
    | ok channel =>
      rw [hset] at hrefused
      cases hrefused
    | error e' =>
      rw [hset] at hrefused
      cases hrefused
      exact hreport

/-- On the small context with three open frames, the two values are reported over which the last
frame was opened. -/
theorem nested_reported_values :
    nested.history.report = [.fixnum 6, .fixnum 7] ∧
      nested.context.Reports nested.history.report ∧ Undisturbed nested nested.history.report :=
  ⟨rfl, reported_values nested_reachable⟩

end Tracked

end CallEngine
