import MatterBridge.Bridge.Config
import MatterBridge.Bridge.SelectLoop

/-!
# Start-up

The bridge thread first waits for go2rtc, which in local mode a task of its own spawns and
respawns, and only then starts the stream manager, discovery and the event loop. It goes on
without go2rtc when that takes too long. The clock is common and counts milliseconds; the
runtime polls spawned tasks for the first time in the order in which they were spawned.
-/
namespace MatterBridge.Bridge

open MatterBridge.Core MatterBridge.Onvif

/-- What `wait_for_ready` is given. -/
def readyTimeout : Nat := 15000

/-- The pause between two polls of go2rtc. -/
def pollPause : Nat := 500

/-- The pause before go2rtc is spawned again. -/
def respawnPause : Nat := 3000

inductive MainPhase where
  /-- `is_ready` is awaited. -/
  | polling (since : Nat)
  | pausing (since : Nat)
  | looping
  deriving DecidableEq

inductive SpawnedTask where
  | supervisor
  | streamManager
  | discovery
  deriving DecidableEq

inductive SupervisorPhase where
  | spawning
  | running
  | pausing (since : Nat)

structure StartUp where
  main : MainPhase
  /-- Spawned and not yet polled, oldest first. -/
  runQueue : List SpawnedTask
  supervisor : Option SupervisorPhase
  discovering : Bool
  discovered : List DiscoveryEvent
  registry : CameraRegistry
  /-- Where the event loop and the stream manager subscribed. -/
  loopRx : Option Nat
  managerRx : Option Nat
  now : Nat

namespace StartUp

/-- The tasks are spawned and the registry subscribed to without an await between. -/
def launch (s : StartUp) : StartUp :=
  { s with
    main := .looping
    runQueue := s.runQueue ++ [.streamManager, .discovery]
    loopRx := some s.registry.tx.sent.length }

def waiting (runQueue : List SpawnedTask) : StartUp where
  main := .polling 0
  runQueue := runQueue
  supervisor := none
  discovering := false
  discovered := []
  registry := .new registryCapacity
  loopRx := none
  managerRx := none
  now := 0

/-- `Go2RtcManager::start`: `configWritten` is whether go2rtc's own settings could be saved. -/
def start (mode : Config.Go2RtcMode) (configWritten : Bool) : StartUp :=
  match mode with
  | .external => waiting []
  | .localProcess => if configWritten then waiting [.supervisor] else (waiting []).launch

def firstPoll (s : StartUp) : SpawnedTask → StartUp
  | .supervisor => { s with supervisor := some .spawning }
  | .streamManager => { s with managerRx := some s.registry.tx.sent.length }
  | .discovery => { s with discovering := true }

inductive Label where
  | tick (elapsed : Nat)
  | ready
  | notReady
  | gaveUp
  | resumed
  | polled (task : SpawnedTask)
  /-- An attempt to spawn go2rtc. -/
  | spawned (ok : Bool)
  | exited
  | respawn
  | discovered (e : DiscoveryEvent)
  | handled (e : DiscoveryEvent)

inductive Step : StartUp → Label → StartUp → Prop
  | tick {s : StartUp} {elapsed : Nat} :
      Step s (.tick elapsed) { s with now := s.now + elapsed }
  | ready {s : StartUp} {since : Nat} : s.main = .polling since → Step s .ready s.launch
  | notReady {s : StartUp} {since : Nat} : s.main = .polling since → s.now ≤ readyTimeout →
      Step s .notReady { s with main := .pausing s.now }
  | gaveUp {s : StartUp} {since : Nat} : s.main = .polling since → readyTimeout < s.now →
      Step s .gaveUp s.launch
  | resumed {s : StartUp} {since : Nat} : s.main = .pausing since → since + pollPause ≤ s.now →
      Step s .resumed { s with main := .polling s.now }
  | polled {s : StartUp} {task : SpawnedTask} {rest : List SpawnedTask} :
      s.runQueue = task :: rest → Step s (.polled task) { s.firstPoll task with runQueue := rest }
  | spawned {s : StartUp} {ok : Bool} : s.supervisor = some .spawning →
      Step s (.spawned ok)
        { s with supervisor := some (if ok then .running else .pausing s.now) }
  | exited {s : StartUp} : s.supervisor = some .running →
      Step s .exited { s with supervisor := some (.pausing s.now) }
  | respawn {s : StartUp} {since : Nat} : s.supervisor = some (.pausing since) →
      since + respawnPause ≤ s.now → Step s .respawn { s with supervisor := some .spawning }
  | discovered {s : StartUp} {e : DiscoveryEvent} : s.discovering = true →
      Step s (.discovered e) { s with discovered := s.discovered ++ [e] }
  | handled {s : StartUp} {e : DiscoveryEvent} {rest : List DiscoveryEvent} :
      s.main = .looping → s.discovered = e :: rest →
      Step s (.handled e) { s with discovered := rest, registry := onDiscovery s.registry e }

/-- No poll of go2rtc takes longer than `call`, and no pause of the waiting thread is
overslept by more than `slack`. -/
def Prompt (call slack : Nat) (s : StartUp) : Label → Prop
  | .tick elapsed =>
    match s.main with
    | .polling since => s.now + elapsed ≤ since + call
    | .pausing since => s.now + elapsed ≤ since + pollPause + slack
    | .looping => True
  | _ => True

/-! ## The wait is bounded -/

/-- How late it can be while the thread waits. -/
def InTime (call slack : Nat) (s : StartUp) : Prop :=
  match s.main with
  | .polling since => since ≤ readyTimeout + pollPause + slack ∧ s.now ≤ since + call
  | .pausing since => since ≤ readyTimeout ∧ s.now ≤ since + pollPause + slack
  | .looping => True

theorem InTime.step {call slack : Nat} {s t : StartUp} {l : Label} (h : InTime call slack s)
    (hs : Guarded Step (Prompt call slack) s l t) : InTime call slack t := by
  obtain ⟨hstep, hprompt⟩ := hs
  cases hstep with
  | tick =>
    unfold InTime at h ⊢
    cases hm : s.main with
    | polling since =>
      simp only [Prompt, hm] at hprompt h ⊢
      exact ⟨h.1, hprompt⟩
    | pausing since =>
      simp only [Prompt, hm] at hprompt h ⊢
      exact ⟨h.1, hprompt⟩
    | looping => trivial
  | ready _ => trivial
  | gaveUp _ _ => trivial
  | notReady _ hearly => exact ⟨hearly, by simp only; omega⟩
  | resumed hm hslept =>
    simp only [InTime, hm] at h
    refine ⟨?_, Nat.le_add_right _ _⟩
    omega
  | @polled task _ _ => cases task <;> exact h
  | spawned _ => exact h
  | exited _ => exact h
  | respawn _ _ => exact h
  | discovered _ => exact h
  | handled _ _ => exact h

theorem InTime.now_le {call slack : Nat} {s : StartUp} (h : InTime call slack s)
    (hm : s.main ≠ .looping) : s.now ≤ readyTimeout + pollPause + slack + call := by
  unfold InTime at h
  cases hphase : s.main with
  | polling since =>
    rw [hphase] at h
    obtain ⟨hsince, hnow⟩ := h
    omega
  | pausing since =>
    rw [hphase] at h
    obtain ⟨hsince, hnow⟩ := h
    omega
  | looping => exact absurd hphase hm

theorem inTime_of_run {mode : Config.Go2RtcMode} {configWritten : Bool} {call slack : Nat}
    {labels : List Label} {s : StartUp}
    (h : Run (Guarded Step (Prompt call slack)) (start mode configWritten) labels s) :
    InTime call slack s := by
  refine h.invariant (InTime call slack) (fun _ _ _ ih hs => ih.step hs) ?_
  cases mode with
  | external => exact ⟨Nat.zero_le _, Nat.zero_le _⟩
  | localProcess =>
    cases configWritten with
    | true => exact ⟨Nat.zero_le _, Nat.zero_le _⟩
    | false => trivial

/-- A pause, slept through. -/
theorem exists_resumed (call slack : Nat) {s : StartUp} {since : Nat}
    (hm : s.main = .pausing since) (h : s.now ≤ since + pollPause + slack) :
    ∃ more t, Run (Guarded Step (Prompt call slack)) s more t ∧ t.main = .polling t.now ∧
      s.now ≤ t.now ∧ since + pollPause ≤ t.now ∧ .ready ∉ more := by
  let later : StartUp := { s with now := s.now + (since + pollPause - s.now) }
  have htick : Guarded Step (Prompt call slack) s (.tick (since + pollPause - s.now)) later := by
    refine ⟨.tick, ?_⟩
    simp only [Prompt, hm]
    omega
  have hslept : since + pollPause ≤ s.now + (since + pollPause - s.now) := by omega
  have hresumed : Guarded Step (Prompt call slack) later .resumed
      { later with main := .polling later.now } := ⟨.resumed hm hslept, trivial⟩
  exact ⟨_, _, Run.cons htick (Run.one hresumed), rfl, Nat.le_add_right _ _, hslept, by simp⟩

/-- With no answer from go2rtc, polls and pauses go on until the time is up. -/
theorem exists_gaveUp {call slack : Nat} (n : Nat) {s : StartUp} {since : Nat}
    (hm : s.main = .polling since) (hn : readyTimeout < s.now + n) :
    ∃ more t, Run (Guarded Step (Prompt call slack)) s more t ∧ t.main = .looping ∧
      .ready ∉ more := by
  induction n generalizing s since with
  | zero =>
    exact ⟨_, _, Run.one ⟨.gaveUp hm hn, trivial⟩, rfl, by simp⟩
  | succ n ih =>
    by_cases hearly : s.now ≤ readyTimeout
    · have hpaused : Guarded Step (Prompt call slack) s .notReady
          { s with main := .pausing s.now } := ⟨.notReady hm hearly, trivial⟩
      obtain ⟨pause, u, hpause, hu, _, hslept, hno⟩ :=
        exists_resumed call slack (s := { s with main := .pausing s.now }) rfl
          (Nat.le_add_right_of_le (Nat.le_add_right _ _))
      have hlater : s.now + 1 ≤ u.now := by
        have hpositive : 0 < pollPause := by decide
        omega
      obtain ⟨more, t, hmore, ht, hno'⟩ := ih hu (by omega)
      exact ⟨_, t, (Run.cons hpaused hpause).append hmore, ht, by simp [hno, hno']⟩
    · exact ⟨_, _, Run.one ⟨.gaveUp hm (Nat.lt_of_not_le hearly), trivial⟩, rfl, by simp⟩

theorem exists_launch {call slack : Nat} {s : StartUp} (h : InTime call slack s) :
    ∃ more t, Run (Guarded Step (Prompt call slack)) s more t ∧ t.main = .looping ∧
      .ready ∉ more := by
  cases hm : s.main with
  | looping => exact ⟨[], s, Run.refl, hm, List.not_mem_nil⟩
  | polling since => exact exists_gaveUp (readyTimeout + 1) hm (by omega)
  | pausing since =>
    simp only [InTime, hm] at h
    obtain ⟨pause, u, hpause, hu, _, _, hno⟩ := exists_resumed call slack hm h.2
    obtain ⟨more, t, hmore, ht, hno'⟩ := exists_gaveUp (readyTimeout + 1) hu (by omega)
    exact ⟨_, t, hpause.append hmore, ht, by simp [hno, hno']⟩

/-! ## Nothing is announced before all listen -/

/-- No camera has been found yet. -/
def Silent (s : StartUp) : Prop :=
  s.discovering = false ∧ s.discovered = [] ∧ s.registry.tx.sent = []

/-- The thread waits; or the manager is about to subscribe; or all have subscribed. -/
def Stage (s : StartUp) : Prop :=
  (s.main ≠ .looping ∧ s.Silent ∧ (s.runQueue = [] ∨ s.runQueue = [.supervisor])) ∨
  (s.main = .looping ∧ s.loopRx = some 0 ∧ s.Silent ∧
    (s.runQueue = [.streamManager, .discovery] ∨
      s.runQueue = [.supervisor, .streamManager, .discovery])) ∨
  (s.main = .looping ∧ s.loopRx = some 0 ∧ s.managerRx = some 0 ∧
    (s.runQueue = [.discovery] ∨ s.runQueue = []))

theorem Stage.launch {s : StartUp} (h : Stage s) (hm : s.main ≠ .looping) : Stage s.launch := by
  rcases h with ⟨_, hsilent, hqueue⟩ | ⟨hl, _⟩ | ⟨hl, _⟩
  · refine Or.inr (Or.inl ⟨rfl, ?_, hsilent, ?_⟩)
    · show some s.registry.tx.sent.length = some 0
      rw [hsilent.2.2]
      rfl
    · rcases hqueue with hqueue | hqueue
      · exact Or.inl (by rw [StartUp.launch, hqueue]; rfl)
      · exact Or.inr (by rw [StartUp.launch, hqueue]; rfl)
  · exact absurd hl hm
  · exact absurd hl hm

/-- The manager is polled before discovery, and discovery finds all subscribed. -/
theorem Stage.polled {s : StartUp} (h : Stage s) {task : SpawnedTask} {rest : List SpawnedTask}
    (hqueue : s.runQueue = task :: rest) : Stage { s.firstPoll task with runQueue := rest } := by
  rcases h with ⟨hm, hsilent, hq⟩ | ⟨hm, hloop, hsilent, hq⟩ | ⟨hm, hloop, hmanager, hq⟩
  · rcases hq with hq | hq
    · rw [hq] at hqueue
      cases hqueue
    · rw [hq] at hqueue
      cases hqueue
      exact Or.inl ⟨hm, hsilent, Or.inl rfl⟩
  · rcases hq with hq | hq
    · rw [hq] at hqueue
      cases hqueue
      refine Or.inr (Or.inr ⟨hm, hloop, ?_, Or.inl rfl⟩)
      show some s.registry.tx.sent.length = some 0
      rw [hsilent.2.2]
      rfl
    · rw [hq] at hqueue
      cases hqueue
      exact Or.inr (Or.inl ⟨hm, hloop, hsilent, Or.inl rfl⟩)
  · rcases hq with hq | hq
    · rw [hq] at hqueue
      cases hqueue
      exact Or.inr (Or.inr ⟨hm, hloop, hmanager, Or.inr rfl⟩)
    · rw [hq] at hqueue
      cases hqueue

theorem Stage.notMem_rest {s : StartUp} (h : Stage s) {task : SpawnedTask}
    {rest : List SpawnedTask} (hqueue : s.runQueue = task :: rest) : .supervisor ∉ rest := by
  rcases h with ⟨_, _, hq⟩ | ⟨_, _, _, hq⟩ | ⟨_, _, _, hq⟩
  all_goals
    rcases hq with hq | hq
    all_goals
      rw [hq] at hqueue
      cases hqueue
      try decide

/-- What discovery does, it does when all have subscribed. -/
theorem Stage.listening {s : StartUp} (h : Stage s) (hs : ¬ s.Silent) :
    s.main = .looping ∧ s.loopRx = some 0 ∧ s.managerRx = some 0 ∧
      (s.runQueue = [.discovery] ∨ s.runQueue = []) := by
  rcases h with ⟨_, hsilent, _⟩ | ⟨_, _, hsilent, _⟩ | hall
  · exact absurd hsilent hs
  · exact absurd hsilent hs
  · exact hall

theorem Stage.step {s t : StartUp} {l : Label} (h : Stage s) (hs : Step s l t) : Stage t := by
  have hwaits : ∀ {phase}, s.main = phase → phase ≠ .looping → ∀ next, next ≠ .looping →
      Stage { s with main := next } := by
    intro phase hm hphase next hnext
    rcases h with ⟨_, hsilent, hq⟩ | ⟨hl, _⟩ | ⟨hl, _⟩
    · exact Or.inl ⟨hnext, hsilent, hq⟩
    · exact absurd (hm.symm.trans hl) hphase
    · exact absurd (hm.symm.trans hl) hphase
  cases hs with
  | tick => exact h
  | ready hm => exact h.launch (by rw [hm]; exact MainPhase.noConfusion)
  | notReady hm _ => exact hwaits hm MainPhase.noConfusion _ MainPhase.noConfusion
  | gaveUp hm _ => exact h.launch (by rw [hm]; exact MainPhase.noConfusion)
  | resumed hm _ => exact hwaits hm MainPhase.noConfusion _ MainPhase.noConfusion
  | polled hqueue => exact h.polled hqueue
  | spawned _ => exact h
  | exited _ => exact h
  | respawn _ _ => exact h
  | discovered hd =>
    refine Or.inr (Or.inr (h.listening fun hsilent => ?_))
    rw [hsilent.1] at hd
    cases hd
  | handled _ hd =>
    refine Or.inr (Or.inr (h.listening fun hsilent => ?_))
    rw [hsilent.2.1] at hd
    cases hd

/-! ## The respawns are paced -/

/-- The attempts to spawn go2rtc. -/
def attempts (labels : List Label) : Nat :=
  labels.countP fun
    | .spawned _ => true
    | _ => false

/-- The attempts since the time `base` have taken their time. -/
def Paced (base attempts : Nat) (s : StartUp) : Prop :=
  match s.supervisor with
  | none => attempts = 0
  | some .spawning => respawnPause * attempts + base ≤ s.now
  | some .running => respawnPause * attempts + base ≤ s.now + respawnPause
  | some (.pausing since) => since ≤ s.now ∧
      (attempts = 0 ∨ respawnPause * attempts + base ≤ since + respawnPause)

theorem Paced.le {base n : Nat} {s : StartUp} (h : Paced base n s) (hbase : base ≤ s.now) :
    respawnPause * n + base ≤ s.now + respawnPause := by
  have hnone : n = 0 → respawnPause * n + base ≤ s.now + respawnPause := by
    rintro rfl
    omega
  unfold Paced at h
  cases hphase : s.supervisor with
  | none =>
    rw [hphase] at h
    exact hnone h
  | some phase =>
    rw [hphase] at h
    cases phase with
    | spawning => exact Nat.le_add_right_of_le h
    | running => exact h
    | pausing since =>
      obtain ⟨hsince, hzero | hle⟩ := h
      · exact hnone hzero
      · exact hle.trans (Nat.add_le_add_right hsince _)

/-- Counting anew from any moment. -/
theorem Paced.restart {base n : Nat} {s : StartUp} (h : Paced base n s) : Paced s.now 0 s := by
  unfold Paced at h ⊢
  cases hphase : s.supervisor with
  | none => rfl
  | some phase =>
    rw [hphase] at h
    cases phase with
    | spawning => exact Nat.le_of_eq (Nat.zero_add _)
    | running => exact Nat.add_comm _ _ ▸ Nat.add_le_add_left (Nat.zero_le _) _
    | pausing since => exact ⟨h.1, Or.inl rfl⟩

theorem attempts_snoc (labels : List Label) (l : Label) :
    attempts (labels ++ [l]) = attempts labels + attempts [l] := List.countP_append

/-- A step that is not the supervisor's. -/
theorem Paced.later {base n : Nat} {s t : StartUp} (h : Paced base n s)
    (hsup : t.supervisor = s.supervisor) (hnow : s.now ≤ t.now) : Paced base n t := by
  unfold Paced at h ⊢
  rw [hsup]
  cases hphase : s.supervisor with
  | none =>
    rw [hphase] at h
    exact h
  | some phase =>
    rw [hphase] at h
    cases phase with
    | spawning => exact h.trans hnow
    | running => exact h.trans (Nat.add_le_add_right hnow _)
    | pausing since => exact ⟨h.1.trans hnow, h.2⟩

/-- What holds after `labels`, which began at the time `base`. -/
structure Inv (base : Nat) (labels : List Label) (s : StartUp) : Prop where
  stage : Stage s
  /-- The supervisor is spawned once. -/
  fresh : .supervisor ∈ s.runQueue → s.supervisor = none
  since : base ≤ s.now
  paced : Paced base (attempts labels) s

theorem Inv.restart {base : Nat} {labels : List Label} {s : StartUp} (h : Inv base labels s) :
    Inv s.now [] s :=
  ⟨h.stage, h.fresh, le_refl _, h.paced.restart⟩

theorem now_le_of_step {s t : StartUp} {l : Label} (hs : Step s l t) : s.now ≤ t.now := by
  cases hs with
  | tick => exact Nat.le_add_right _ _
  | @polled task _ _ => cases task <;> exact le_refl _
  | _ => exact le_refl _

theorem Inv.step {base : Nat} {labels : List Label} {s t : StartUp} {l : Label}
    (h : Inv base labels s) (hs : Step s l t) : Inv base (labels ++ [l]) t := by
  refine ⟨h.stage.step hs, ?_, h.since.trans (now_le_of_step hs), ?_⟩
  · cases hs with
    | ready _ => exact fun hmem => h.fresh (by simpa [launch] using hmem)
    | gaveUp _ _ => exact fun hmem => h.fresh (by simpa [launch] using hmem)
    | polled hqueue => exact fun hmem => absurd hmem (h.stage.notMem_rest hqueue)
    | spawned hsup => exact fun hmem => absurd ((h.fresh hmem).symm.trans hsup) nofun
    | exited hsup => exact fun hmem => absurd ((h.fresh hmem).symm.trans hsup) nofun
    | respawn hsup _ => exact fun hmem => absurd ((h.fresh hmem).symm.trans hsup) nofun
    | _ => exact h.fresh
  · rw [attempts_snoc]
    have hpaced := h.paced
    have hbase := h.since
    cases hs with
    | tick => exact h.paced.later rfl (Nat.le_add_right _ _)
    | @polled task rest hqueue =>
      cases task with
      | supervisor =>
        have hnone := h.fresh (by rw [hqueue]; exact List.mem_cons_self)
        rw [Paced, hnone] at hpaced
        show respawnPause * (attempts labels + 0) + base ≤ s.now
        rw [show attempts labels = 0 from hpaced]
        omega
      | streamManager => exact h.paced.later rfl (le_refl _)
      | discovery => exact h.paced.later rfl (le_refl _)
    | @spawned ok hsup =>
      rw [Paced, hsup] at hpaced
      have hnext : respawnPause * (attempts labels + 1) + base ≤ s.now + respawnPause := by
        rw [Nat.mul_succ]
        change respawnPause * attempts labels + base ≤ s.now at hpaced
        omega
      cases ok with
      | true => exact hnext
      | false => exact ⟨le_refl _, Or.inr hnext⟩
    | exited hsup =>
      rw [Paced, hsup] at hpaced
      exact ⟨le_refl _, Or.inr hpaced⟩
    | respawn hsup hslept =>
      rw [Paced, hsup] at hpaced
      obtain ⟨_, hzero | hle⟩ := hpaced
      · show respawnPause * (attempts labels + 0) + base ≤ s.now
        rw [hzero]
        omega
      · exact hle.trans hslept
    | _ => exact h.paced.later rfl (le_refl _)

theorem inv_of_run {mode : Config.Go2RtcMode} {configWritten : Bool} {labels : List Label}
    {s : StartUp} (h : Run Step (start mode configWritten) labels s) : Inv 0 labels s := by
  refine h.history (Inv 0) ?_ fun _ _ _ _ ih hs => ih.step hs
  have hwaiting : ∀ runQueue, runQueue = [] ∨ runQueue = [.supervisor] →
      Inv 0 [] (waiting runQueue) := fun _ hqueue =>
    ⟨Or.inl ⟨MainPhase.noConfusion, ⟨rfl, rfl, rfl⟩, hqueue⟩, fun _ => rfl, Nat.zero_le _, rfl⟩
  cases mode with
  | external => exact hwaiting [] (Or.inl rfl)
  | localProcess =>
    cases configWritten with
    | true => exact hwaiting [.supervisor] (Or.inr rfl)
    | false =>
      have hempty := hwaiting [] (Or.inl rfl)
      exact ⟨hempty.stage.launch MainPhase.noConfusion, fun _ => rfl, Nat.zero_le _, rfl⟩

/-- Over any stretch of a run, the attempts to spawn go2rtc are a pause apart. -/
theorem Inv.paced_stretch {base : Nat} {labels more : List Label} {s t : StartUp}
    (h : Inv base labels s) (hmore : Run Step s more t) :
    respawnPause * attempts more + s.now ≤ t.now + respawnPause := by
  have hinv := hmore.history (Inv s.now) h.restart fun _ _ _ _ ih hs => ih.step hs
  exact hinv.paced.le hinv.since

/-- The wait is given up only when its time is up. -/
theorem gaveUp_late {mode : Config.Go2RtcMode} {configWritten : Bool} {labels : List Label}
    {s : StartUp} (h : Run Step (start mode configWritten) labels s) (hmem : .gaveUp ∈ labels) :
    readyTimeout < s.now := by
  refine h.history (fun labels s => .gaveUp ∈ labels → readyTimeout < s.now)
    (fun hmem => absurd hmem List.not_mem_nil) ?_ hmem
  intro labels s l t ih hstep hmem
  rcases List.mem_append.mp hmem with hmem | hmem
  · have hlate := ih hmem
    cases hstep with
    | tick => exact Nat.lt_add_right _ hlate
    | @polled task _ _ => cases task <;> exact hlate
    | _ => exact hlate
  · obtain rfl := List.mem_singleton.mp hmem
    cases hstep with
    | gaveUp _ hlate => exact hlate

/-- **The bridge comes up, whatever go2rtc does.** While its thread still waits, no more time
has passed than the wait is given, one pause and one poll, and without any answer from go2rtc
the wait comes to an end; it is given up only when its time is up. The first camera is announced
when the event loop and the stream manager have both subscribed, so neither misses it. And
from any moment to any later one, the attempts to spawn go2rtc are a pause apart. -/
theorem comes_up {mode : Config.Go2RtcMode} {configWritten : Bool} {call slack : Nat}
    {labels : List Label} {s : StartUp}
    (h : Run (Guarded Step (Prompt call slack)) (start mode configWritten) labels s) :
    (s.main ≠ .looping → s.now ≤ readyTimeout + pollPause + slack + call) ∧
    (∃ more t, Run (Guarded Step (Prompt call slack)) s more t ∧ t.main = .looping ∧
      .ready ∉ more) ∧
    (.gaveUp ∈ labels → readyTimeout < s.now) ∧
    (s.registry.tx.sent ≠ [] → s.loopRx = some 0 ∧ s.managerRx = some 0) ∧
    ∀ more t, Run Step s more t →
      respawnPause * attempts more + s.now ≤ t.now + respawnPause := by
  have htime := inTime_of_run h
  have hinv := inv_of_run h.unguard
  refine ⟨htime.now_le, exists_launch htime, gaveUp_late h.unguard, fun hsent => ?_,
    fun _ _ => hinv.paced_stretch⟩
  obtain ⟨_, hloop, hmanager, _⟩ := hinv.stage.listening fun hsilent => hsent hsilent.2.2
  exact ⟨hloop, hmanager⟩

/-- go2rtc is spawned and answers the second poll; then a camera is found. -/
theorem comes_up_local :
    ∃ labels s, Run (Guarded Step (Prompt 1000 10)) (start .localProcess true) labels s ∧
      s.registry.tx.sent = [.added (.bare "SN-1")] ∧ s.loopRx = some 0 ∧ s.managerRx = some 0 := by
  have hrun : Run (Guarded Step (Prompt 1000 10)) (start .localProcess true)
      [.polled .supervisor, .spawned true, .notReady, .tick 500, .resumed, .ready,
        .polled .streamManager, .polled .discovery, .discovered (.cameraFound (.bare "SN-1")),
        .handled (.cameraFound (.bare "SN-1"))] _ :=
    Run.cons ⟨.polled rfl, trivial⟩ <| Run.cons ⟨.spawned rfl, trivial⟩ <|
    Run.cons ⟨.notReady rfl (by decide), trivial⟩ <|
    Run.cons ⟨.tick, show 0 + 500 ≤ 0 + 500 + 10 by decide⟩ <|
    Run.cons ⟨.resumed rfl (by decide), trivial⟩ <| Run.cons ⟨.ready rfl, trivial⟩ <|
    Run.cons ⟨.polled rfl, trivial⟩ <| Run.cons ⟨.polled rfl, trivial⟩ <|
    Run.cons ⟨.discovered rfl, trivial⟩ <| Run.one ⟨.handled rfl rfl, trivial⟩
  exact ⟨_, _, hrun, rfl, (comes_up hrun).2.2.2.1 (List.cons_ne_nil _ _)⟩

end StartUp

end MatterBridge.Bridge
