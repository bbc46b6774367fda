import CredoAssistant.Proofs.Session.Guard

/-!
What the user is told. Every inspection that a session accepts ends once at most, and the user is
told of its end when the tool failed, with the text of the failure and no other. Whether the
document was closed meanwhile makes no difference, nor does what the notifier answers. The settings
are opened for the requests of the host and for the answers that ask for them.
-/
namespace CredoAssistant

/-- The text that a failure of the tool leaves: what the system says, or what the linter wrote on
its error stream. -/
def Launch.complaint? : Launch → Option String
  | .refused e => some e.message
  | .finished _ stderr _ => if stderr = "" then none else some stderr
  | .crashed _ | .nullCharacter => none

/-- The end of an inspection: its document, how its launch ended, and what the notifier answers at
that time. -/
structure End where
  document : Document
  launch : Launch
  answer : NotifierReply

namespace End

/-- What the user is told of the end. -/
def notification? (e : End) : Option Notification := e.launch.complaint?.map Notification.ofFailure

/-- Whether the user is told and answers with the position of the settings among the actions. -/
def opens (e : End) : Bool :=
  e.notification?.any fun n =>
    e.answer == .chose (some (n.actions.idxOf "Project Settings" : Nat))

end End

def Step.opensSettings : Step → Bool
  | .openSettings => true
  | _ => false

namespace Trace

@[simp] theorem notified_append (a b : Trace) : (a ++ b).notified = a.notified ++ b.notified := rfl

@[simp] theorem settingsOpened_append (a b : Trace) :
    (a ++ b).settingsOpened = a.settingsOpened + b.settingsOpened := rfl

@[simp] theorem notified_log (level : LogLevel) (channel : LogChannel) (message : String) :
    (log level channel message).notified = [] := rfl

@[simp] theorem settingsOpened_log (level : LogLevel) (channel : LogChannel) (message : String) :
    (log level channel message).settingsOpened = 0 := rfl

end Trace

/-! ### The end of a launch -/

/-- A trace that tells of the end of an inspection and counts the answer to it. -/
structure Trace.TellsOf (t : Trace) (e : End) : Prop where
  notified : t.notified = [e].filterMap End.notification?
  settingsOpened : t.settingsOpened = [e].countP End.opens

theorem End.opens_of_complaint {e : End} {text : String} (told : e.launch.complaint? = some text) :
    e.opens = decide (e.answer = .chose (some Notification.settingsAction)) := by
  simp only [opens, notification?, told, Option.map_some, Option.any_some]
  rfl

/-- The notifier is asked once, whether it answers or fails and whether the settings open or not. -/
theorem Host.notify_trace (host : Host) (text : String) :
    (host.notify text).2.notified = [Notification.ofFailure text] ∧
      (host.notify text).2.settingsOpened =
        if host.notifier = .chose (some Notification.settingsAction) then 1 else 0 := by
  obtain ⟨notifier, failing⟩ := host
  cases notifier with
  | failed message => exact ⟨rfl, rfl⟩
  | chose action =>
    by_cases asked : action = some Notification.settingsAction
    · subst asked
      cases failing <;> exact ⟨rfl, rfl⟩
    · simp [notify, asked]

theorem Inspection.conclude_tells (stack : Stack) (host : Host) (command : List String)
    (d : Document) (launch : Launch) :
    (conclude stack host command launch).2.TellsOf ⟨d, launch, host.notifier⟩ := by
  have failure (e : ToolError) (failed : ofLaunch stack command launch = .ok (.toolFailure e))
      (told : launch.complaint? = some e.stderr) :
      (conclude stack host command launch).2.TellsOf ⟨d, launch, host.notifier⟩ := by
    obtain ⟨notified, opened⟩ := host.notify_trace e.stderr
    constructor
    · simp [conclude, failed, announce, notified, End.notification?, told]
    · have opens : (End.mk d launch host.notifier).opens =
          decide (host.notifier = .chose (some Notification.settingsAction)) :=
        End.opens_of_complaint told
      simp [conclude, failed, announce, opened, opens]
  cases launch with
  | crashed message => exact ⟨rfl, rfl⟩
  | nullCharacter => exact ⟨rfl, rfl⟩
  | refused e => exact failure _ rfl rfl
  | finished stdout stderr code =>
    by_cases silent : stderr = ""
    · subst silent
      simp only [conclude, ofLaunch, ne_eq, not_true_eq_false, if_false]
      cases Report.read stack stdout with
      | ok issues => exact ⟨rfl, rfl⟩
      | error failed => cases failed <;> exact ⟨rfl, rfl⟩
    · exact failure _ (if_pos silent) (if_neg silent)

/-- What becomes of the result is told to the log alone. -/
theorem Publisher.settle_quiet (setup : Setup) (store : Store) (d : Document) (closed : Bool)
    (result : Inspection) :
    (settle setup store d closed result).2.1.notified = [] ∧
      (settle setup store d closed result).2.1.settingsOpened = 0 := by
  unfold settle publish
  split
  · exact ⟨rfl, rfl⟩
  split
  · split <;> exact ⟨rfl, rfl⟩
  · exact ⟨rfl, rfl⟩

theorem Publisher.finish_tells (setup : Setup) (host : Host) (p : Publisher) (d : Document)
    (launch : Launch) :
    (finish setup host p d launch).2.1.TellsOf ⟨d, launch, host.notifier⟩ ∧
      (finish setup host p d launch).2.2.settingsOpened =
        p.settingsOpened + [End.mk d launch host.notifier].countP End.opens := by
  have tells :=
    Inspection.conclude_tells setup.stack host (setup.settings.commandFor d.path) d launch
  unfold finish
  generalize Inspection.conclude setup.stack host (setup.settings.commandFor d.path) launch =
    concluded at tells ⊢
  obtain ⟨outcome, trace⟩ := concluded
  cases outcome with
  | error i => exact ⟨tells, congrArg (p.settingsOpened + ·) tells.settingsOpened⟩
  | ok result =>
    obtain ⟨notified, opened⟩ :=
      settle_quiet setup p.store d (p.closedInFlight.contains d.uri) result
    refine ⟨⟨?_, ?_⟩, congrArg (p.settingsOpened + ·) tells.settingsOpened⟩
    · rw [Trace.notified_append, notified, List.append_nil]
      exact tells.notified
    · rw [Trace.settingsOpened_append, opened]
      exact tells.settingsOpened

/-- A request tells the user nothing. -/
theorem Publisher.request_quiet (setup : Setup) (p : Publisher) (d : Document) :
    (request setup p d).2.1.notified = [] ∧
      (request setup p d).2.2.settingsOpened = p.settingsOpened := by
  unfold request
  split
  · exact ⟨rfl, rfl⟩
  · dsimp only
    split <;> exact ⟨rfl, rfl⟩

namespace Session

variable {setup : Setup} {host : Host} {s : Session}

/-! ### The history of a session -/

/-- The document of an inspection that a step asks for and that is accepted: a launch is asked for.
-/
def accepting (setup : Setup) (s : Session) (a : Step) : Option Document :=
  match a with
  | .start _ path | .provide path _ =>
    if (s.step setup a).2.requests = [] then none
    else Document.ofPath? Document.systemLinks setup.root path
  | _ => none

/-- The end of an inspection that a step brings about. -/
def ending (setup : Setup) (s : Session) (a : Step) : Option End :=
  match a with
  | .provide _ launch => (s.accepting setup a).map fun d => ⟨d, launch, s.host.notifier⟩
  | .finish name launch =>
    match s.run? name with
    | some (_, .waiting d) => some ⟨d, launch, s.host.notifier⟩
    | _ => none
  | _ => none

/-- The documents of the inspections that are accepted, step by step. -/
def acceptances (setup : Setup) (s : Session) : List Step → List Document
  | [] => []
  | a :: rest => (s.accepting setup a).toList ++ acceptances setup (s.step setup a).1 rest

/-- The ends of inspections, step by step. -/
def ends (setup : Setup) (s : Session) : List Step → List End
  | [] => []
  | a :: rest => (s.ending setup a).toList ++ ends setup (s.step setup a).1 rest

/-- What the user is shown in the course of some steps. -/
def notified (setup : Setup) (s : Session) (steps : List Step) : List Notification :=
  (run setup s steps).flatMap fun r => r.1.trace.notified

/-- One step keeps the accounts: of the inspections under way, of what the user is told, and of how
often the settings are opened. -/
structure Accounts (setup : Setup) (s : Session) (a : Step) : Prop where
  pending : ((s.accepting setup a).toList ++ s.pending).Perm
    ((s.ending setup a).toList.map End.document ++ (s.step setup a).1.pending)
  notified : (s.step setup a).2.trace.notified =
    (s.ending setup a).toList.filterMap End.notification?
  opened : (s.step setup a).1.publisher.settingsOpened = s.publisher.settingsOpened +
    ([a].countP Step.opensSettings + (s.ending setup a).toList.countP End.opens)

/-- Nothing that is kept in the accounts changes. -/
structure Quiet (s : Session) (next : Session × Reply) : Prop where
  pending : next.1.pending = s.pending
  notified : next.2.trace.notified = []
  opened : next.1.publisher.settingsOpened = s.publisher.settingsOpened

theorem quiet_withDocument {path : String} {f : Document → Session × Reply}
    (each : ∀ d, Quiet s (f d)) : Quiet s (s.withDocument setup path f) := by
  unfold withDocument
  split
  · exact ⟨rfl, rfl, rfl⟩
  · exact each _

theorem quiet_withView {name : String} {f : View → Session × Reply} (each : ∀ v, Quiet s (f v)) :
    Quiet s (s.withView name f) := by
  unfold withView
  split
  · exact ⟨rfl, rfl, rfl⟩
  · exact each _

/-- A step that asks for no inspection and ends none has nothing to tell. -/
theorem accounts_quiet {a : Step} (asks : s.accepting setup a = none)
    (ends : s.ending setup a = none) (direct : a.opensSettings = false)
    (quiet : Quiet s (s.step setup a)) : Accounts setup s a := by
  constructor
  · rw [asks, ends, quiet.pending]
    exact .refl _
  · rw [quiet.notified, ends]
    rfl
  · rw [quiet.opened, ends]
    simp [direct]

theorem accepting_of_requests {a : Step} (none : (s.step setup a).2.requests = []) :
    s.accepting setup a = .none := by
  cases a <;> simp [accepting, none]

/-- A step that asks for an inspection is refused without a document; otherwise the document
decides. -/
theorem accounts_asked {a : Step} {path : String} {f : Document → Session × Reply}
    (asked : s.step setup a = s.withDocument setup path f)
    (refused : (s.step setup a).2.requests = [] → Quiet s (s.step setup a) → Accounts setup s a)
    (each : ∀ d, Document.ofPath? Document.systemLinks setup.root path = some d →
      s.step setup a = f d → Accounts setup s a) : Accounts setup s a := by
  unfold withDocument at asked
  cases found : Document.ofPath? Document.systemLinks setup.root path with
  | none =>
    rw [found] at asked
    rw [asked] at refused
    exact refused rfl ⟨rfl, rfl, rfl⟩
  | some d =>
    rw [found] at asked
    exact each d found asked

/-- An inspection made at once ends in the step that asks for it. -/
theorem accounts_provide (setup : Setup) (s : Session) (path : String) (launch : Launch) :
    Accounts setup s (.provide path launch) := by
  have refused (none : (s.step setup (.provide path launch)).2.requests = []) :=
    accounts_quiet (accepting_of_requests none)
      (by rw [ending, accepting_of_requests none]; rfl) rfl
  refine accounts_asked rfl refused fun d found stepped => ?_
  obtain ⟨silent, still⟩ := Publisher.request_quiet setup s.publisher d
  unfold provide at stepped
  generalize Publisher.request setup s.publisher d = requested at silent still stepped
  obtain ⟨admission, trace, p⟩ := requested
  cases admission with
  | busy =>
    rw [stepped] at refused
    exact refused rfl ⟨rfl, silent, still⟩
  | interrupted i =>
    rw [stepped] at refused
    exact refused rfl ⟨rfl, silent, still⟩
  | started q =>
    have asks : s.accepting setup (.provide path launch) = some d := by
      simp [accepting, stepped, found]
    have ends : s.ending setup (.provide path launch) = some ⟨d, launch, s.host.notifier⟩ := by
      rw [ending, asks]
      rfl
    obtain ⟨tells, opened⟩ := Publisher.finish_tells setup s.host p d launch
    constructor
    · rw [asks, ends, stepped]
      exact .refl _
    · rw [stepped, ends]
      dsimp only at silent ⊢
      rw [Trace.notified_append, silent, tells.notified]
      rfl
    · rw [stepped, ends]
      dsimp only at still ⊢
      rw [opened, still]
      exact congrArg _ (Nat.zero_add _).symm

/-- An inspection that is started is under way. -/
theorem accounts_start (setup : Setup) (s : Session) (name path : String) :
    Accounts setup s (.start name path) := by
  have refused (none : (s.step setup (.start name path)).2.requests = []) :=
    accounts_quiet (accepting_of_requests none) rfl rfl
  refine accounts_asked rfl refused fun d found stepped => ?_
  obtain ⟨silent, still⟩ := Publisher.request_quiet setup s.publisher d
  unfold startRun at stepped
  generalize Publisher.request setup s.publisher d = requested at silent still stepped
  obtain ⟨admission, trace, p⟩ := requested
  cases admission with
  | busy =>
    rw [stepped] at refused
    exact refused rfl ⟨pending_keepRun_ended s name p _, silent, still⟩
  | interrupted i =>
    rw [stepped] at refused
    exact refused rfl ⟨pending_keepRun_ended s name p _, silent, still⟩
  | started q =>
    have asks : s.accepting setup (.start name path) = some d := by
      simp [accepting, stepped, found]
    constructor
    · rw [asks, stepped]
      dsimp only
      rw [pending_keepRun_waiting]
      exact List.perm_append_comm
    · rw [stepped]
      exact silent
    · rw [stepped]
      exact still

/-- The end of an inspection under way is told of, and takes its document out of the account. -/
theorem accounts_finish (setup : Setup) (s : Session) (name : String) (launch : Launch) :
    Accounts setup s (.finish name launch) := by
  cases running : s.run? name with
  | none =>
    refine accounts_quiet rfl (by simp only [ending, running]) rfl ?_
    simp only [step, finishRun, running]
    exact ⟨rfl, rfl, rfl⟩
  | some run =>
    obtain ⟨i, progress⟩ := run
    cases progress with
    | ended outcome =>
      refine accounts_quiet rfl (by simp only [ending, running]) rfl ?_
      simp only [step, finishRun, running]
      exact ⟨rfl, rfl, rfl⟩
    | waiting d =>
      have ends : s.ending setup (.finish name launch) = some ⟨d, launch, s.host.notifier⟩ := by
        simp only [ending, running]
      obtain ⟨tells, opened⟩ := Publisher.finish_tells setup s.host s.publisher d launch
      obtain ⟨before, after, whole, left⟩ := filterMap_set_ended (runs_of_run? running)
        (Publisher.finish setup s.host s.publisher d launch).1
      constructor
      · rw [ends]
        simp only [step, finishRun, running, pending, whole, left]
        exact List.perm_middle
      · rw [ends]
        simp only [step, finishRun, running]
        exact tells.notified
      · rw [ends]
        simp only [step, finishRun, running]
        rw [opened]
        exact congrArg _ (Nat.zero_add _).symm

/-- Every step keeps the accounts. -/
theorem accounts_step (setup : Setup) (s : Session) (a : Step) : Accounts setup s a := by
  cases a with
  | provide path launch => exact accounts_provide setup s path launch
  | start name path => exact accounts_start setup s name path
  | finish name launch => exact accounts_finish setup s name launch
  | openSettings =>
    constructor
    · exact .refl _
    · rfl
    · simp only [step, Publisher.openSettings, Host.openSettings]
      cases s.host.settingsFailure <;> rfl
  | openView name path =>
    exact accounts_quiet rfl rfl rfl (quiet_withDocument fun d => ⟨rfl, rfl, rfl⟩)
  | closeView name => exact accounts_quiet rfl rfl rfl (quiet_withView fun v => ⟨rfl, rfl, rfl⟩)
  | documentClosed name =>
    refine accounts_quiet rfl rfl rfl (quiet_withView fun v => ⟨rfl, rfl, ?_⟩)
    simp only [Publisher.documentClosed]
    split <;> rfl
  | put path values =>
    refine accounts_quiet rfl rfl rfl (quiet_withDocument fun d => ?_)
    split <;> exact ⟨rfl, rfl, rfl⟩
  | remove path => exact accounts_quiet rfl rfl rfl (quiet_withDocument fun d => ⟨rfl, rfl, rfl⟩)
  | look path => exact accounts_quiet rfl rfl rfl (quiet_withDocument fun d => ⟨rfl, rfl, rfl⟩)
  | listViews => exact accounts_quiet rfl rfl rfl ⟨rfl, rfl, rfl⟩
  | setNotifier answer => exact accounts_quiet rfl rfl rfl ⟨rfl, rfl, rfl⟩
  | setSettingsFailure failure => exact accounts_quiet rfl rfl rfl ⟨rfl, rfl, rfl⟩

/-- The accounts of a whole run, from any session on. -/
structure Balanced (setup : Setup) (s : Session) (steps : List Step) : Prop where
  pending : (acceptances setup s steps ++ s.pending).Perm
    ((ends setup s steps).map End.document ++ (after setup s steps).pending)
  notified : notified setup s steps = (ends setup s steps).filterMap End.notification?
  opened : (after setup s steps).publisher.settingsOpened = s.publisher.settingsOpened +
    (steps.countP Step.opensSettings + (ends setup s steps).countP End.opens)

theorem balanced (setup : Setup) (s : Session) (steps : List Step) : Balanced setup s steps := by
  induction steps generalizing s with
  | nil => exact ⟨.refl _, rfl, rfl⟩
  | cons a rest ih =>
    have first := accounts_step setup s a
    have later := ih (s.step setup a).1
    constructor
    · -- What the first step leaves under way is what the others go on with.
      rw [acceptances, ends, List.map_append, List.append_assoc, after_cons]
      refine (List.perm_append_comm_assoc _ _ _).trans ?_
      refine (first.pending.append_left _).trans ?_
      refine (List.perm_append_comm_assoc _ _ _).trans ?_
      rw [List.append_assoc]
      exact later.pending.append_left _
    · calc Session.notified setup s (a :: rest)
          = (s.step setup a).2.trace.notified ++
            Session.notified setup (s.step setup a).1 rest := rfl
        _ = (ends setup s (a :: rest)).filterMap End.notification? := by
          rw [first.notified, later.notified, ends, List.filterMap_append]
    · have counted : (a :: rest).countP Step.opensSettings =
          [a].countP Step.opensSettings + rest.countP Step.opensSettings := by
        rw [← List.countP_append, List.singleton_append]
      rw [after_cons, later.opened, first.opened, ends, List.countP_append, counted]
      omega

/-- The notices of a session: each accepted inspection is under way or has ended once; the user is
told of the ends that leave a complaint, in their order and each with its text; and the settings
were opened as often as the host asked for it and the user answered so. -/
structure Notices (setup : Setup) (host : Host) (steps : List Step) : Prop where
  accounted : (acceptances setup (ofHost host) steps).Perm
    ((ends setup (ofHost host) steps).map End.document ++
      (after setup (ofHost host) steps).pending)
  told : notified setup (ofHost host) steps = (ends setup (ofHost host) steps).filterMap fun e =>
    e.launch.complaint?.map Notification.ofFailure
  bodies : (notified setup (ofHost host) steps).map Notification.body =
    (ends setup (ofHost host) steps).filterMap fun e =>
      e.launch.complaint?.map fun text => text ++ "\nPlease check your configuration."
  opened : (after setup (ofHost host) steps).publisher.settingsOpened =
    steps.countP Step.opensSettings + (ends setup (ofHost host) steps).countP End.opens

/-- The user is told of every failure of the tool once, and of nothing else. -/
theorem notices (setup : Setup) (host : Host) (steps : List Step) : Notices setup host steps := by
  obtain ⟨pending, told, opened⟩ := balanced setup (ofHost host) steps
  refine ⟨?_, told, ?_, ?_⟩
  · rw [show (ofHost host).pending = [] from rfl, List.append_nil] at pending
    exact pending
  · rw [told, List.map_filterMap]
    congr 1
    funext e
    exact Option.map_map _ _ _
  · rw [opened]
    exact Nat.zero_add _

/-- A document that is closed while it is inspected does not keep the failure from the user, and a
notifier that fails does not take the notice back. -/
theorem notices_closed :
    notified (.ofRoot (Path.ofText "/proj")) (ofHost ⟨.failed "busy", none⟩)
        [.openView "v" "lib/a.ex", .start "r" "lib/a.ex", .documentClosed "v",
          .finish "r" (.finished "" "boom" (some 1))] = [.ofFailure "boom"] ∧
      Notices (.ofRoot (Path.ofText "/proj")) ⟨.failed "busy", none⟩
        [.openView "v" "lib/a.ex", .start "r" "lib/a.ex", .documentClosed "v",
          .finish "r" (.finished "" "boom" (some 1))] :=
  ⟨by decide +kernel, notices _ _ _⟩

end Session

end CredoAssistant
