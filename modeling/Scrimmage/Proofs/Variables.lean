import Scrimmage.Proofs.Deadlines

namespace Scrimmage

namespace Text

/-- A text without the blanks at its ends. -/
structure Trimmed (cs core : List Char) : Prop where
  around : ∃ front back, cs = front ++ (core ++ back) ∧ (∀ c ∈ front, isBlank c = true) ∧ ∀ c ∈ back, isBlank c = true
  first : ∀ c ∈ core.head?, isBlank c = false
  last : ∀ c ∈ core.getLast?, isBlank c = false

theorem dropWhile_blank {cs : List Char} (blank : ∀ c ∈ cs, isBlank c = true) (rest : List Char) :
    (cs ++ rest).dropWhile isBlank = rest.dropWhile isBlank :=
  List.dropWhile_append_of_pos blank

theorem dropWhile_solid {cs : List Char} (solid : ∀ c ∈ cs.head?, isBlank c = false) : cs.dropWhile isBlank = cs := by
  cases cs with
  | nil => rfl
  | cons c cs => rw [List.dropWhile_cons, solid c rfl, if_neg Bool.false_ne_true]

theorem dropWhile_head (cs : List Char) : ∀ c ∈ (cs.dropWhile isBlank).head?, isBlank c = false := by
  intro c first
  have stops := List.head?_dropWhile_not isBlank cs
  rw [Option.mem_def.mp first] at stops
  simpa using stops

theorem trimChars_trimmed (cs : List Char) : Trimmed cs (trimChars cs) := by
  have front := List.takeWhile_append_dropWhile (p := isBlank) (l := cs)
  have back := List.takeWhile_append_dropWhile (p := isBlank) (l := (cs.dropWhile isBlank).reverse)
  have whole : trimChars cs ++ ((cs.dropWhile isBlank).reverse.takeWhile isBlank).reverse = cs.dropWhile isBlank := by
    rw [trimChars, ← List.reverse_append, back, List.reverse_reverse]
  refine ⟨⟨cs.takeWhile isBlank, _, by rw [whole, front], fun c => List.mem_takeWhile_imp, fun c member => ?_⟩,
    fun c first => ?_, fun c last => ?_⟩
  · exact List.mem_takeWhile_imp (List.mem_reverse.mp member)
  · -- what is left of the end of a text has the same beginning
    refine dropWhile_head cs c ?_
    rw [← whole, List.head?_append, Option.mem_def.mp first]
    rfl
  · rw [trimChars, List.getLast?_reverse] at last
    exact dropWhile_head _ c last

theorem Trimmed.eq_trimChars {cs core : List Char} (trimmed : Trimmed cs core) : core = trimChars cs := by
  obtain ⟨⟨front, back, rfl, before, after⟩, first, last⟩ := trimmed
  have blank : ∀ c ∈ back.reverse, isBlank c = true := fun c member => after c (List.mem_reverse.mp member)
  rw [trimChars, dropWhile_blank before]
  cases core with
  | nil =>
    have none : back.dropWhile isBlank = [] := List.dropWhile_eq_nil_iff.mpr after
    rw [List.nil_append, none]
    rfl
  | cons c core =>
    have stops : (c :: core ++ back).dropWhile isBlank = c :: core ++ back := dropWhile_solid first
    rw [stops, List.reverse_append, dropWhile_blank blank, dropWhile_solid (by rwa [List.head?_reverse]),
      List.reverse_reverse]

theorem trimmed_iff {cs core : List Char} : Trimmed cs core ↔ core = trimChars cs :=
  ⟨Trimmed.eq_trimChars, fun same => same ▸ trimChars_trimmed cs⟩

end Text

namespace Settings

/-- The text spells a number of 64 bits: at least one digit, after a plus sign or none. -/
def Numeral (text : List Char) (n : Nat) : Prop :=
  ∃ digits, (text = digits ∨ text = '+' :: digits) ∧ digits ≠ [] ∧ (∀ c ∈ digits, '0' ≤ c ∧ c ≤ '9') ∧
    Nat.ofDigitChars 10 digits 0 = n ∧ n < 2 ^ 64

theorem digitsAfter_eq_ok_iff {n m : Nat} {cs : List Char} (small : n < wordSize) :
    digitsAfter n cs = .ok m ↔ (∀ c ∈ cs, '0' ≤ c ∧ c ≤ '9') ∧ Nat.ofDigitChars 10 cs n = m ∧ m < wordSize := by
  induction cs generalizing n with
  | nil =>
    simp only [digitsAfter, Except.ok.injEq, List.not_mem_nil, false_imp_iff, implies_true, Nat.ofDigitChars_nil,
      true_and]
    exact ⟨fun same => ⟨same, same ▸ small⟩, And.left⟩
  | cons c cs ih =>
    rw [List.forall_mem_cons, Nat.ofDigitChars_cons, Nat.mul_comm 10, digitsAfter]
    by_cases digit : '0' ≤ c ∧ c ≤ '9'
    · have value : digit? c = some (c.toNat - '0'.toNat) := if_pos digit
      simp only [value]
      split
      · rename_i fits
        rw [ih fits, and_iff_right digit]
      · rename_i large
        constructor
        · intro read
          cases read
        · rintro ⟨_, rfl, fits⟩
          exact absurd ((le_ofDigitChars _ cs).trans_lt fits) large
    · have none : digit? c = none := if_neg digit
      simp only [none]
      constructor
      · intro read
        cases read
      · exact fun all => absurd all.1.1 digit

theorem readNumber_eq_ok_iff {text : List Char} {n : Nat} : readNumber text = .ok n ↔ Numeral text n := by
  have zero : 0 < wordSize := by decide
  have plus : ¬('0' ≤ '+' ∧ '+' ≤ '9') := by decide
  rw [readNumber.eq_def]
  split
  · constructor
    · intro read
      cases read
    · rintro ⟨digits, rfl | same, some, _⟩
      · exact absurd rfl some
      · cases same
  · rename_i rest
    constructor
    · intro read
      split at read
      · cases read
      · rename_i some
        exact ⟨rest, Or.inr rfl, by simpa using some, (digitsAfter_eq_ok_iff zero).mp read⟩
    · rintro ⟨digits, rfl | same, some, spelled⟩
      · exact absurd (spelled.1 '+' List.mem_cons_self) plus
      · cases same
        rw [if_neg (by simpa using some)]
        exact (digitsAfter_eq_ok_iff zero).mpr spelled
  · rename_i some other
    rw [digitsAfter_eq_ok_iff zero]
    constructor
    · exact fun spelled => ⟨text, Or.inl rfl, some, spelled⟩
    · rintro ⟨digits, rfl | same, _, spelled⟩
      · exact spelled
      · exact absurd same (other digits)

/-- What a variable states, or what holds without it. -/
def Stated {α : Type} (env : Environment) (name : String) (default : α) (spells : List Char → α → Prop) (value : α) :
    Prop :=
  match env.get? name with
  | none => value = default
  | some raw => ∃ core, Text.Trimmed raw.toList core ∧ spells core value

section

variable {env : Environment} {name : String}

theorem address_eq_ok_iff {default value : SocketAddress} :
    address env name default = .ok value ↔
      Stated env name default (fun core address => SocketAddress.parse? core = some address) value := by
  cases present : env.get? name with
  | none =>
    simp only [address, Stated, present, Except.ok.injEq]
    exact eq_comm
  | some raw =>
    simp only [address, Stated, present, Text.trimmed_iff, exists_eq_left]
    cases SocketAddress.parse? (Text.trimChars raw.toList) <;> simp

theorem number_eq_ok_iff {default value : Nat} :
    number env name default = .ok value ↔ Stated env name default Numeral value := by
  cases present : env.get? name with
  | none =>
    simp only [number, Stated, present, Except.ok.injEq]
    exact eq_comm
  | some raw =>
    simp only [number, Stated, present, Text.trimmed_iff, exists_eq_left, ← readNumber_eq_ok_iff]
    cases readNumber (Text.trimChars raw.toList) <;> simp [Except.mapError]

theorem positive_eq_ok_iff {default value : Nat} (some : default ≠ 0) :
    positive env name default = .ok value ↔
      Stated env name default (fun core n => Numeral core n ∧ n ≠ 0) value := by
  have read : positive env name default = .ok value ↔ Stated env name default Numeral value ∧ value ≠ 0 := by
    rw [← number_eq_ok_iff, positive]
    cases number env name default with
    | error fault => simp [Except.bind]
    | ok n => simp only [Except.bind]; split <;> simp <;> omega
  rw [read, Stated, Stated]
  split
  · exact and_iff_left_of_imp fun same => same ▸ some
  · simp only [← exists_and_right, and_assoc]

end

section

variable {env other : Environment} {name : String} (same : other.get? name = env.get? name)

include same

theorem address_congr {default : SocketAddress} : address other name default = address env name default := by
  rw [address, address, same]

theorem number_congr {default : Nat} : number other name default = number env name default := by
  rw [number, number, same]

theorem positive_congr {default : Nat} : positive other name default = positive env name default := by
  rw [positive, positive, number_congr same]

end

/-- The variables that are read, in the order in which that is done. -/
inductive Setting
  | bindAddress
  | healthBindAddress
  | teamSize
  | handshakeTimeout
  | shutdownTimeout
  deriving DecidableEq, Repr

namespace Setting

def name : Setting → String
  | .bindAddress => "GS_BIND_ADDRESS"
  | .healthBindAddress => "GS_HEALTH_BIND_ADDRESS"
  | .teamSize => "GS_MAX_PLAYERS_PER_TEAM"
  | .handshakeTimeout => "GS_HANDSHAKE_TIMEOUT_SECONDS"
  | .shutdownTimeout => "GS_SHUTDOWN_TIMEOUT_SECONDS"

def all : List Setting := [.bindAddress, .healthBindAddress, .teamSize, .handshakeTimeout, .shutdownTimeout]

/-- What the text of a variable has to be. -/
def Fits : Setting → List Char → Prop
  | .bindAddress, core | .healthBindAddress, core => ∃ address, SocketAddress.parse? core = some address
  | .teamSize, core | .handshakeTimeout, core => ∃ n, Numeral core n ∧ n ≠ 0
  | .shutdownTimeout, core => ∃ n, Numeral core n

/-- A variable that is there fits, blanks at its ends left out. -/
def Met (env : Environment) (s : Setting) : Prop :=
  ∀ raw, env.get? s.name = some raw → ∃ core, Text.Trimmed raw.toList core ∧ s.Fits core

/-- A variable is the first that does not fit. -/
def Offends (env : Environment) (s : Setting) : Prop :=
  ∃ before after, all = before ++ s :: after ∧ (∀ earlier ∈ before, earlier.Met env) ∧ ¬s.Met env

end Setting

/-- Settings that an environment states: for each variable that is there its own value, with the blanks at its
ends left out, and defaults for the others. -/
structure States (env : Environment) (hostname : Option String) (suffix : String) (settings : Settings) : Prop where
  bindAddress : Stated env "GS_BIND_ADDRESS" defaultBindAddress
    (fun core address => SocketAddress.parse? core = some address) settings.bindAddress
  healthBindAddress : Stated env "GS_HEALTH_BIND_ADDRESS" defaultHealthBindAddress
    (fun core address => SocketAddress.parse? core = some address) settings.healthBindAddress
  maxPlayersPerTeam : Stated env "GS_MAX_PLAYERS_PER_TEAM" defaultMaxPlayersPerTeam
    (fun core n => Numeral core n ∧ n ≠ 0) settings.maxPlayersPerTeam
  handshakeTimeoutSeconds : Stated env "GS_HANDSHAKE_TIMEOUT_SECONDS" defaultHandshakeTimeoutSeconds
    (fun core n => Numeral core n ∧ n ≠ 0) settings.handshakeTimeoutSeconds
  shutdownTimeoutSeconds : Stated env "GS_SHUTDOWN_TIMEOUT_SECONDS" defaultShutdownTimeoutSeconds Numeral
    settings.shutdownTimeoutSeconds
  /-- The name of the server is taken as it is. -/
  serverId : settings.serverId = (env.get? "GS_SERVER_ID").getD (generatedId hostname suffix)

section

variable {env : Environment} {hostname : Option String} {suffix : String} {settings : Settings}

theorem ofEnvironment_eq_ok_iff :
    ofEnvironment env hostname suffix = .ok settings ↔ settings.States env hostname suffix := by
  constructor
  · intro accepted
    simp only [ofEnvironment, bind, Except.bind] at accepted
    repeat' split at accepted
    all_goals cases accepted
    rename_i _ bindAddress _ _ healthBindAddress _ _ teamSize _ _ handshake _ _ shutdown
    exact ⟨address_eq_ok_iff.mp bindAddress, address_eq_ok_iff.mp healthBindAddress,
      (positive_eq_ok_iff (by decide)).mp teamSize, (positive_eq_ok_iff (by decide)).mp handshake,
      number_eq_ok_iff.mp shutdown, rfl⟩
  · rintro ⟨bindAddress, healthBindAddress, teamSize, handshake, shutdown, serverId⟩
    rw [ofEnvironment, address_eq_ok_iff.mpr bindAddress, address_eq_ok_iff.mpr healthBindAddress,
      (positive_eq_ok_iff (by decide)).mpr teamSize, (positive_eq_ok_iff (by decide)).mpr handshake,
      number_eq_ok_iff.mpr shutdown, ← serverId]
    rfl

/-- A setting can be made of a variable that fits, or without one. -/
theorem exists_stated_iff {α : Type} {name : String} {default : α} {spells : List Char → α → Prop} :
    (∃ value, Stated env name default spells value) ↔
      ∀ raw, env.get? name = some raw → ∃ core, Text.Trimmed raw.toList core ∧ ∃ value, spells core value := by
  cases present : env.get? name with
  | none => simp [Stated, present]
  | some raw =>
    simp only [Stated, present, Option.some.injEq, forall_eq']
    exact ⟨fun ⟨value, core, trimmed, spelled⟩ => ⟨core, trimmed, value, spelled⟩,
      fun ⟨core, trimmed, value, spelled⟩ => ⟨value, core, trimmed, spelled⟩⟩

end

/-- What is wrong, if something is. -/
def fault? {α : Type} : Except Fault α → Option Fault
  | .ok _ => none
  | .error fault => some fault

theorem fault?_eq_none_iff {α : Type} {outcome : Except Fault α} :
    fault? outcome = none ↔ ∃ value, outcome = .ok value := by
  cases outcome <;> simp [fault?]

theorem fault?_eq_some_iff {α : Type} {outcome : Except Fault α} {fault : Fault} :
    fault? outcome = some fault ↔ outcome = .error fault := by
  cases outcome <;> simp [fault?]

/-- The variable that does not fit. -/
def Fault.subject : Fault → String
  | .address name _ | .number name _ _ | .zero name => name

/-- A fault is that of a variable, and says so: it repeats the text of the variable, or finds it too small. -/
structure Fault.Names (fault : Fault) (env : Environment) (name : String) : Prop where
  subject : fault.subject = name
  message : fault.message = "Invalid configuration value: " ++ (name ++ " must be at least 1") ∨
    ∃ raw reason, env.get? name = some raw ∧
      fault.message = "Invalid configuration value: " ++ (name ++ "=" ++ raw ++ reason)

section

variable {env : Environment} {name : String} {fault : Fault}

theorem address_names {default : SocketAddress} (refused : address env name default = .error fault) :
    fault.Names env name := by
  rw [address] at refused
  split at refused
  · cases refused
  · rename_i raw present
    split at refused
    · cases refused
    · obtain rfl := Except.error.inj refused
      exact ⟨rfl, Or.inr ⟨raw, _, present, rfl⟩⟩

theorem number_names {default : Nat} (refused : number env name default = .error fault) : fault.Names env name := by
  rw [number] at refused
  split at refused
  · cases refused
  · rename_i raw present
    cases read : readNumber (Text.trimChars raw.toList) with
    | ok n =>
      rw [read] at refused
      cases refused
    | error reason =>
      rw [read] at refused
      cases refused
      exact ⟨rfl, Or.inr ⟨raw, ": " ++ reason.message, present, congrArg _ (String.append_assoc ..)⟩⟩

theorem positive_names {default : Nat} (refused : positive env name default = .error fault) : fault.Names env name := by
  rw [positive] at refused
  cases read : number env name default with
  | error other =>
    rw [read] at refused
    cases refused
    exact number_names read
  | ok n =>
    rw [read] at refused
    simp only [Except.bind] at refused
    split at refused
    · cases refused
      exact ⟨rfl, Or.inl rfl⟩
    · cases refused

end

namespace Setting

/-- What is wrong with a variable by itself. -/
def fault? (env : Environment) : Setting → Option Fault
  | .bindAddress => Settings.fault? (address env "GS_BIND_ADDRESS" defaultBindAddress)
  | .healthBindAddress => Settings.fault? (address env "GS_HEALTH_BIND_ADDRESS" defaultHealthBindAddress)
  | .teamSize => Settings.fault? (positive env "GS_MAX_PLAYERS_PER_TEAM" defaultMaxPlayersPerTeam)
  | .handshakeTimeout =>
    Settings.fault? (positive env "GS_HANDSHAKE_TIMEOUT_SECONDS" defaultHandshakeTimeoutSeconds)
  | .shutdownTimeout => Settings.fault? (number env "GS_SHUTDOWN_TIMEOUT_SECONDS" defaultShutdownTimeoutSeconds)

variable {env : Environment} {s : Setting}

theorem fault?_eq_none_iff : s.fault? env = none ↔ s.Met env := by
  cases s with
  | bindAddress | healthBindAddress =>
    simp only [fault?, Settings.fault?_eq_none_iff, address_eq_ok_iff, exists_stated_iff]
    rfl
  | teamSize | handshakeTimeout =>
    simp only [fault?, Settings.fault?_eq_none_iff, positive_eq_ok_iff (show defaultMaxPlayersPerTeam ≠ 0 by decide),
      positive_eq_ok_iff (show defaultHandshakeTimeoutSeconds ≠ 0 by decide), exists_stated_iff]
    rfl
  | shutdownTimeout =>
    simp only [fault?, Settings.fault?_eq_none_iff, number_eq_ok_iff, exists_stated_iff]
    rfl

theorem names_of_fault? {fault : Fault} (wrong : s.fault? env = some fault) : fault.Names env s.name := by
  cases s with
  | bindAddress | healthBindAddress => exact address_names (fault?_eq_some_iff.mp wrong)
  | teamSize | handshakeTimeout => exact positive_names (fault?_eq_some_iff.mp wrong)
  | shutdownTimeout => exact number_names (fault?_eq_some_iff.mp wrong)

end Setting

section

variable {env : Environment} {hostname : Option String} {suffix : String} {fault : Fault}

theorem fault?_ofEnvironment :
    fault? (ofEnvironment env hostname suffix) = Setting.all.findSome? (Setting.fault? env) := by
  simp only [ofEnvironment, Setting.all, List.findSome?_cons, List.findSome?_nil, Setting.fault?]
  rcases address env "GS_BIND_ADDRESS" defaultBindAddress with fault | bindAddress
  · rfl
  rcases address env "GS_HEALTH_BIND_ADDRESS" defaultHealthBindAddress with fault | healthBindAddress
  · rfl
  rcases positive env "GS_MAX_PLAYERS_PER_TEAM" defaultMaxPlayersPerTeam with fault | teamSize
  · rfl
  rcases positive env "GS_HANDSHAKE_TIMEOUT_SECONDS" defaultHandshakeTimeoutSeconds with fault | handshake
  · rfl
  rcases number env "GS_SHUTDOWN_TIMEOUT_SECONDS" defaultShutdownTimeoutSeconds with fault | shutdown
  · rfl
  · rfl

/-- Settings are refused exactly if some variable does not fit, and the first of those is named. -/
theorem ofEnvironment_eq_error_iff :
    ofEnvironment env hostname suffix = .error fault ↔
      ∃ before s after, Setting.all = before ++ s :: after ∧ s.fault? env = some fault ∧
        ∀ earlier ∈ before, earlier.Met env := by
  rw [← fault?_eq_some_iff, fault?_ofEnvironment, List.findSome?_eq_some_iff]
  simp only [Setting.fault?_eq_none_iff]

end

namespace Environment

/-- Two environments have the same to say of the settings, but for the blanks around it. -/
structure SameButBlanks (env other : Environment) : Prop where
  texts : ∀ s : Setting, Option.Rel
    (fun raw raw' => ∃ core, Text.Trimmed raw.toList core ∧ Text.Trimmed raw'.toList core)
    (env.get? s.name) (other.get? s.name)
  serverId : other.get? "GS_SERVER_ID" = env.get? "GS_SERVER_ID"

theorem SameButBlanks.stated {env other : Environment} (same : env.SameButBlanks other) (s : Setting) {α : Type}
    {default : α} {spells : List Char → α → Prop} {value : α} (stated : Stated env s.name default spells value) :
    Stated other s.name default spells value := by
  have texts := same.texts s
  rw [Stated] at stated ⊢
  generalize env.get? s.name = one at texts stated
  generalize other.get? s.name = two at texts
  cases texts with
  | none => exact stated
  | some both =>
    obtain ⟨core, trimmed, trimmed'⟩ := both
    obtain ⟨core', trimmed'', spelled⟩ := stated
    refine ⟨core, trimmed', ?_⟩
    rwa [Text.trimmed_iff.mp trimmed, ← Text.trimmed_iff.mp trimmed'']

theorem SameButBlanks.states {env other : Environment} (same : env.SameButBlanks other) {hostname : Option String}
    {suffix : String} {settings : Settings} (states : settings.States env hostname suffix) :
    settings.States other hostname suffix where
  bindAddress := same.stated .bindAddress states.bindAddress
  healthBindAddress := same.stated .healthBindAddress states.healthBindAddress
  maxPlayersPerTeam := same.stated .teamSize states.maxPlayersPerTeam
  handshakeTimeoutSeconds := same.stated .handshakeTimeout states.handshakeTimeoutSeconds
  shutdownTimeoutSeconds := same.stated .shutdownTimeout states.shutdownTimeoutSeconds
  serverId := by rw [states.serverId, same.serverId]

/-- What becomes of an environment. Each of the variables that are read has to fit, blanks at its ends left out,
and then it states its setting; if some do not fit, the first of them in the order of the settings is named.
Nothing else in the environment has a say, but for the name of the server. -/
structure Decides (env : Environment) (hostname : Option String) (suffix : String) : Prop where
  /-- Settings are made of variables that fit, and state what these state. -/
  accepted : (∃ settings, ofEnvironment env hostname suffix = .ok settings) ↔ ∀ s : Setting, s.Met env
  stated : ∀ settings, ofEnvironment env hostname suffix = .ok settings ↔ settings.States env hostname suffix
  /-- Otherwise the first variable that does not fit is named, whatever else does not. -/
  refused : ∀ fault, ofEnvironment env hostname suffix = .error fault → ∃ s : Setting, s.Offends env ∧
    fault.Names env s.name
  offended : ∀ s : Setting, s.Offends env → ∃ fault, ofEnvironment env hostname suffix = .error fault ∧
    fault.Names env s.name
  /-- Other variables have no say. -/
  others : ∀ other : Environment, (∀ s : Setting, other.get? s.name = env.get? s.name) →
    other.get? "GS_SERVER_ID" = env.get? "GS_SERVER_ID" →
    ofEnvironment other hostname suffix = ofEnvironment env hostname suffix
  /-- The machine matters for the name of the server, and only where none is given. -/
  generated : ∀ hostname' suffix', ofEnvironment env hostname' suffix' =
    (ofEnvironment env hostname suffix).map fun settings =>
      { settings with serverId := (env.get? "GS_SERVER_ID").getD (generatedId hostname' suffix') }
  blanks : ∀ other, env.SameButBlanks other → ∀ settings, ofEnvironment env hostname suffix = .ok settings →
    ofEnvironment other hostname suffix = .ok settings

end Environment

/-- Which environments settings can be made of, and which settings: those in which every variable that is there
fits, each with the value that it states and defaults for the others. If one does not fit, the first of them is
named. -/
theorem environment_decides (env : Environment) (hostname : Option String) (suffix : String) :
    env.Decides hostname suffix where
  accepted := by
    simp only [← fault?_eq_none_iff, fault?_ofEnvironment, List.findSome?_eq_none_iff, Setting.fault?_eq_none_iff]
    refine ⟨fun met s => met s (by cases s <;> decide), fun met s _ => met s⟩
  stated settings := ofEnvironment_eq_ok_iff
  refused fault refused := by
    obtain ⟨before, s, after, order, wrong, earlier⟩ := ofEnvironment_eq_error_iff.mp refused
    refine ⟨s, ⟨before, after, order, earlier, fun met => ?_⟩, Setting.names_of_fault? wrong⟩
    cases wrong.symm.trans (Setting.fault?_eq_none_iff.mpr met)
  offended s offends := by
    obtain ⟨before, after, order, earlier, unmet⟩ := offends
    cases wrong : s.fault? env with
    | none => exact absurd (Setting.fault?_eq_none_iff.mp wrong) unmet
    | some fault =>
      exact ⟨fault, ofEnvironment_eq_error_iff.mpr ⟨before, s, after, order, wrong, earlier⟩,
        Setting.names_of_fault? wrong⟩
  others other same serverId := by
    have bindAddress : other.get? "GS_BIND_ADDRESS" = env.get? "GS_BIND_ADDRESS" := same .bindAddress
    have healthBindAddress : other.get? "GS_HEALTH_BIND_ADDRESS" = env.get? "GS_HEALTH_BIND_ADDRESS" :=
      same .healthBindAddress
    have teamSize : other.get? "GS_MAX_PLAYERS_PER_TEAM" = env.get? "GS_MAX_PLAYERS_PER_TEAM" := same .teamSize
    have handshake : other.get? "GS_HANDSHAKE_TIMEOUT_SECONDS" = env.get? "GS_HANDSHAKE_TIMEOUT_SECONDS" :=
      same .handshakeTimeout
    have shutdown : other.get? "GS_SHUTDOWN_TIMEOUT_SECONDS" = env.get? "GS_SHUTDOWN_TIMEOUT_SECONDS" :=
      same .shutdownTimeout
    simp only [ofEnvironment, address_congr bindAddress, address_congr healthBindAddress, positive_congr teamSize,
      positive_congr handshake, number_congr shutdown, serverId]
  generated hostname' suffix' := by
    change _ = _ <$> _
    simp only [ofEnvironment, map_bind, map_pure]
  blanks other same settings accepted :=
    ofEnvironment_eq_ok_iff.mpr (same.states (ofEnvironment_eq_ok_iff.mp accepted))

end Settings

end Scrimmage
