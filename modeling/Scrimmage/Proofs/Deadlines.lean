import Scrimmage.Proofs.Shutdown

namespace Scrimmage

namespace Settings

theorem digitsAfter_lt {n m : Nat} {cs : List Char} (small : n < wordSize) (read : digitsAfter n cs = .ok m) :
    m < wordSize := by
  induction cs generalizing n with
  | nil =>
    cases read
    exact small
  | cons c cs ih =>
    rw [digitsAfter] at read
    split at read
    · cases read
    · split at read
      · rename_i fits
        exact ih fits read
      · cases read

theorem readNumber_lt {cs : List Char} {n : Nat} (read : readNumber cs = .ok n) : n < wordSize := by
  have zero : 0 < wordSize := by decide
  rw [readNumber.eq_def] at read
  split at read
  · cases read
  · split at read
    · cases read
    · exact digitsAfter_lt zero read
  · exact digitsAfter_lt zero read

theorem number_lt {env : Environment} {name : String} {default n : Nat} (fits : default < wordSize)
    (read : number env name default = .ok n) : n < wordSize := by
  rw [number] at read
  split at read
  · cases read
    exact fits
  · rename_i raw _
    cases digits : readNumber (Text.trimChars raw.toList) with
    | error fault =>
      rw [digits] at read
      cases read
    | ok m =>
      rw [digits] at read
      cases read
      exact readNumber_lt digits

theorem le_ofDigitChars (n : Nat) (cs : List Char) : n ≤ Nat.ofDigitChars 10 cs n := by
  induction cs generalizing n with
  | nil => exact le_rfl
  | cons c cs ih =>
    rw [Nat.ofDigitChars_cons]
    have more := ih (10 * n + (c.toNat - '0'.toNat))
    omega

theorem digitsAfter_of_digits {n : Nat} {cs : List Char} (all : ∀ c ∈ cs, c.isDigit = true)
    (fits : Nat.ofDigitChars 10 cs n < wordSize) : digitsAfter n cs = .ok (Nat.ofDigitChars 10 cs n) := by
  induction cs generalizing n with
  | nil => rfl
  | cons c cs ih =>
    have digit : digit? c = some (c.toNat - '0'.toNat) := by
      have bounds := all c List.mem_cons_self
      simp only [Char.isDigit, Bool.and_eq_true, decide_eq_true_eq] at bounds
      exact if_pos bounds
    rw [Nat.ofDigitChars_cons, Nat.mul_comm 10] at fits ⊢
    have below : n * 10 + (c.toNat - '0'.toNat) < wordSize := lt_of_le_of_lt (le_ofDigitChars _ cs) fits
    rw [digitsAfter, digit]
    simp only [below, if_true]
    exact ih (fun d member => all d (List.mem_cons_of_mem _ member)) fits

theorem readNumber_toDigits {n : Nat} (fits : n < wordSize) : readNumber (Nat.toDigits 10 n) = .ok n := by
  have all : ∀ c ∈ Nat.toDigits 10 n, c.isDigit = true := fun c member =>
    Nat.isDigit_of_mem_toDigits (by decide) (by decide) member
  have value : Nat.ofDigitChars 10 (Nat.toDigits 10 n) 0 = n := Nat.ofDigitChars_toDigits (by decide) (by decide)
  have read := digitsAfter_of_digits (n := 0) all (by rwa [value])
  rw [value] at read
  rw [readNumber.eq_def]
  split
  · rename_i none
    exact absurd none Nat.toDigits_ne_nil
  · rename_i rest plus
    rw [plus] at all
    cases all '+' List.mem_cons_self
  · exact read

theorem trimChars_of_digits {cs : List Char} (all : ∀ c ∈ cs, c.isDigit = true) : Text.trimChars cs = cs := by
  have solid : ∀ c, c.isDigit = true → Text.isBlank c = false := by
    intro c digit
    simp only [Char.isDigit_iff_toNat, Char.reduceToNat] at digit
    simp only [Text.isBlank, Bool.or_eq_false_iff, Bool.and_eq_false_iff, decide_eq_false_iff_not, beq_eq_false_iff_ne]
    omega
  have front : ∀ ds : List Char, (∀ c ∈ ds, c.isDigit = true) → ds.dropWhile Text.isBlank = ds := by
    intro ds all
    cases ds with
    | nil => rfl
    | cons c ds => rw [List.dropWhile_cons, solid c (all c List.mem_cons_self), if_neg Bool.false_ne_true]
  rw [Text.trimChars, front cs all, front _ fun c member => all c (List.mem_reverse.mp member), List.reverse_reverse]

/-- Variables that state nothing but the time for a shutdown. Any number that fits a word of 64 bits may be
stated, and the clock has room for half of them. -/
def allowing (seconds : Nat) : Environment := [("GS_SHUTDOWN_TIMEOUT_SECONDS", seconds.repr)]

/-- Every number that fits a word is a time that the settings take. -/
theorem ofEnvironment_allowing {seconds : Nat} (fits : seconds < wordSize) (hostname : Option String)
    (suffix : String) :
    ofEnvironment (allowing seconds) hostname suffix = .ok
      { bindAddress := defaultBindAddress, healthBindAddress := defaultHealthBindAddress,
        serverId := generatedId hostname suffix, maxPlayersPerTeam := defaultMaxPlayersPerTeam,
        handshakeTimeoutSeconds := defaultHandshakeTimeoutSeconds, shutdownTimeoutSeconds := seconds } := by
  have digits : ∀ c ∈ Nat.toDigits 10 seconds, c.isDigit = true := fun c member =>
    Nat.isDigit_of_mem_toDigits (by decide) (by decide) member
  have read : number (allowing seconds) "GS_SHUTDOWN_TIMEOUT_SECONDS" defaultShutdownTimeoutSeconds = .ok seconds := by
    have get : (allowing seconds).get? "GS_SHUTDOWN_TIMEOUT_SECONDS" = some seconds.repr := by
      simp [allowing, Environment.get?]
    rw [number, get]
    simp only [Nat.toList_repr, trimChars_of_digits digits, readNumber_toDigits fits]
    rfl
  -- the other variables are left out
  have absent : ∀ name, name ≠ "GS_SHUTDOWN_TIMEOUT_SECONDS" → (allowing seconds).get? name = none := by
    intro name other
    simp [allowing, Environment.get?, other.symm]
  simp only [ofEnvironment, address, positive, read]
  rw [number, number, absent _ (by decide), absent _ (by decide), absent _ (by decide), absent _ (by decide),
    absent _ (by decide)]
  rfl

theorem shutdownTimeout_lt {env : Environment} {hostname : Option String} {suffix : String} {settings : Settings}
    (accepted : ofEnvironment env hostname suffix = .ok settings) : settings.shutdownTimeoutSeconds < wordSize := by
  simp only [ofEnvironment, bind, Except.bind] at accepted
  repeat' split at accepted
  all_goals cases accepted
  rename_i read
  exact number_lt (by decide) read

end Settings

/-- What a server does for its sessions does not take back that they were told to stop, nor that the registry
has stopped, which is left with what it has. -/
structure Server.Abides (s after : Server) : Prop where
  told : s.sessionsCancelled = true → after.sessionsCancelled = true
  stopped : s.registry.running = false →
    after.registry.running = false ∧ after.registry.abandoned = s.registry.abandoned

namespace Server

theorem finish_abides {s : Server} {c : ConnectionId} {session : Session} (found : s.session? c = some session)
    {ending : Ending} (told : ending ≠ .registryUnavailable) (farewell : Option Package)
    (peerFrame : Option CloseFrame) : s.Abides (s.finish c ending farewell peerFrame) := by
  obtain ⟨x, _, _, same⟩ := finish_eq found told farewell peerFrame
  rw [same]
  refine ⟨id, fun stopped => ?_⟩
  simp only [registry_modifySession, Registry.send, stopped, Bool.false_eq_true, if_false, and_self]

theorem InternalStep.abides {s after : Server} (step : InternalStep s after) : s.Abides after := by
  cases step with
  | cancel refs => exact ⟨fun _ => rfl, fun stopped => ⟨stopped, rfl⟩⟩
  | pass | touch | upgrade => exact ⟨id, fun stopped => ⟨stopped, rfl⟩⟩
  | pump found active =>
    rw [pumpSession_eq]
    split
    · exact ⟨id, fun stopped => ⟨stopped, rfl⟩⟩
    · rename_i ending ends
      have ended := finish_abides (session?_drained found) (ending_pump ends) none none
      exact ⟨ended.told, ended.stopped⟩
  | finish found live breaksOff => exact finish_abides found breaksOff.known _ _

theorem InternalSteps.abides {s after : Server} (steps : InternalSteps s after) : s.Abides after := by
  induction steps with
  | refl => exact ⟨id, fun stopped => ⟨stopped, rfl⟩⟩
  | tail _ step ih =>
    refine ⟨step.abides.told ∘ ih.told, fun stopped => ?_⟩
    obtain ⟨still, same⟩ := ih.stopped stopped
    obtain ⟨last, kept⟩ := step.abides.stopped still
    exact ⟨last, kept.trans same⟩

end Server

namespace Deployment

/-- Whoever closes a deployment tells all sessions to end, and the registry. -/
theorem close_tells (d : Deployment) (last timeout : Nat) :
    (d.close last timeout).2.server.sessionsCancelled = true ∧
      (d.close last timeout).2.server.registry.running = false ∧
      (d.close last timeout).2.server.registry.abandoned =
        ((moment d.server.cancelSessions last).registry.ask (.shutdown timeout)).2.abandoned := by
  have told : d.server.cancelSessions.sessionsCancelled = true :=
    (Server.settle_internalSteps d.server.told).abides.told rfl
  have settled := (Server.settle_internalSteps { moment d.server.cancelSessions last with
    registry := ((moment d.server.cancelSessions last).registry.send fun r => ((), r.beginShutdown timeout)).2 }).abides
  have asked := Registry.send_beginShutdown (moment d.server.cancelSessions last).registry timeout
  obtain ⟨stopped, left⟩ := settled.stopped
    ((congrArg Registry.running asked).trans (Registry.running_ask_shutdown ..))
  exact ⟨settled.told told, stopped, left.trans (congrArg Registry.abandoned asked)⟩

/-- A registry that hears of the shutdown at `last` has at least until the deadline of the sessions. -/
theorem second_deadline {later last deadline : Nat} (since : later ≤ last)
    (room : max last (deadline + (last - later)) ≤ Clock.latest) :
    Clock.after? last (Clock.remaining later deadline) = some (max last (deadline + (last - later))) := by
  have same : last + (deadline - later) = max last (deadline + (last - later)) := by omega
  rw [Clock.after?, Clock.remaining, same, if_pos room]

/-- A shutdown whose first deadline exists tells all sessions to end, and the registry. If the second one does too, no
game is left behind. -/
theorem shutdown_tells (d : Deployment) {now later last timeout : Nat} (since : later ≤ last)
    (present : last ≤ Clock.latest) (due : now + timeout ≤ Clock.latest) :
    ∃ after, d.shutdown now later last timeout = some after ∧
      after.2.server.sessionsCancelled = true ∧ after.2.server.registry.running = false ∧
      (now + timeout + (last - later) ≤ Clock.latest →
        (Clock.after? last (Clock.remaining later (now + timeout))).isSome ∧
          after.2.server.registry.abandoned = d.server.cancelSessions.registry.abandoned) := by
  obtain ⟨told, stopped, left⟩ := d.close_tells last (Clock.remaining later (now + timeout))
  refine ⟨_, by rw [shutdown, Clock.after?, if_pos due], told, stopped, fun room => ?_⟩
  have second := second_deadline since (max_le present room)
  refine ⟨by rw [second, Option.isSome_some], left.trans ?_⟩
  exact Registry.abandoned_ask_shutdown (r := (moment d.server.cancelSessions last).registry) second

theorem shutdown_none (d : Deployment) {now timeout : Nat} (far : Clock.latest < now + timeout) (later last : Nat) :
    d.shutdown now later last timeout = none := by
  rw [shutdown, Clock.after?, if_neg (Nat.not_le.mpr far)]

/-- Whether a shutdown tells anybody to end depends on the time that the settings allow for it, which may be any number
that fits a word. If the first deadline exists, the sessions and the registry are told. If the second one does too,
which is later by as long as the message to the registry takes, no game is left behind. If the first one does not
exist, nobody is told anything. -/
theorem shutdown_in_time {env : Settings.Environment} {hostname : Option String} {suffix : String}
    {settings : Settings} (accepted : Settings.ofEnvironment env hostname suffix = .ok settings) (d : Deployment)
    {now later last : Nat} (since : later ≤ last) (present : last ≤ Clock.latest) :
    settings.shutdownTimeoutSeconds < 2 ^ 64 ∧
      (now + settings.shutdownTimeoutSeconds * Clock.second ≤ Clock.latest →
        ∃ after, d.shutdown now later last (settings.shutdownTimeoutSeconds * Clock.second) = some after ∧
          after.2.server.sessionsCancelled = true ∧ after.2.server.registry.running = false ∧
          (now + settings.shutdownTimeoutSeconds * Clock.second + (last - later) ≤ Clock.latest →
            (Clock.after? last
              (Clock.remaining later (now + settings.shutdownTimeoutSeconds * Clock.second))).isSome ∧
            after.2.server.registry.abandoned = d.server.cancelSessions.registry.abandoned)) ∧
      (Clock.latest < now + settings.shutdownTimeoutSeconds * Clock.second →
        d.shutdown now later last (settings.shutdownTimeoutSeconds * Clock.second) = none) := by
  exact ⟨Settings.shutdownTimeout_lt accepted, d.shutdown_tells since present,
    fun far => d.shutdown_none far later last⟩

/-- With half a minute for its sessions the server shuts down. -/
theorem shutdown_in_half_a_minute :
    Settings.ofEnvironment (Settings.allowing 30) none "" = .ok
        { loopback with
          bindAddress := Settings.defaultBindAddress
          healthBindAddress := Settings.defaultHealthBindAddress
          serverId := "gs-unknown-"
          maxPlayersPerTeam := 5 } ∧
      110 * Clock.second ≤ 111 * Clock.second ∧ 111 * Clock.second ≤ Clock.latest ∧
      ∃ after, fresh.shutdown (100 * Clock.second) (110 * Clock.second) (111 * Clock.second) (30 * Clock.second) =
        some after ∧ after.2.server.registry.running = false := by
  have fits : 30 < Settings.wordSize := by decide
  have accepted := Settings.ofEnvironment_allowing fits none ""
  have since : 110 * Clock.second ≤ 111 * Clock.second := by decide
  have present : 111 * Clock.second ≤ Clock.latest := by decide
  obtain ⟨_, due, _⟩ := @shutdown_in_time _ _ _ _ accepted fresh (100 * Clock.second) _ _ since present
  obtain ⟨after, shuts, _, stopped, _⟩ := due (by decide)
  exact ⟨accepted, since, present, after, shuts, stopped⟩

/-- The greatest time that the settings take lies after the last point in time, whenever the server is shut down. -/
theorem shutdown_out_of_time :
    (∃ settings, Settings.ofEnvironment [("GS_SHUTDOWN_TIMEOUT_SECONDS", "18446744073709551615")] none "" =
        .ok settings ∧ settings.shutdownTimeoutSeconds = 18446744073709551615) ∧
      ∀ now later last, fresh.shutdown now later last (18446744073709551615 * Clock.second) = none := by
  have spelled : Nat.repr 18446744073709551615 = "18446744073709551615" := by decide +kernel
  have fits : 18446744073709551615 < Settings.wordSize := by decide
  have accepted := Settings.ofEnvironment_allowing fits none ""
  rw [Settings.allowing, spelled] at accepted
  refine ⟨⟨_, accepted, rfl⟩, fun now later last => ?_⟩
  have beyond : Clock.latest < 18446744073709551615 * Clock.second := by decide
  exact fresh.shutdown_none (beyond.trans_le (Nat.le_add_left _ now)) later last

end Deployment

end Scrimmage
