/-
# Whose word counts

Three have a say in each setting of a connection: the environment, the configuration and, where both
are silent, the default.  The environment is asked twice, though.  What it GIVES is a text, for the
address one that is not blank; but the configuration is heard only where the variable is not set at
all.  A variable that is set and gives nothing therefore silences the configuration
(`Sources.PassedOver`), and the setting falls back to the default.

That is the only way in which the order of precedence fails, for each of the three settings
(`Config.connection_settled_iff`).  A blank address is enough; a namespace and a database are passed
over only where their variable holds no text.
-/
import Curation.Config.Connection

namespace Curation

/-! ## 1. The order of precedence -/

/-- What may be said about one setting of a connection, and by whom. -/
structure Sources where
  /-- The variable is set, whatever it gives. -/
  isSet : Bool
  /-- What the environment gives. -/
  given : Option String
  /-- What the configuration says. -/
  said : Option String
  standard : String

namespace Sources

/-- **The order of precedence**: the environment, then the configuration, then the default. -/
def settled (s : Sources) : String := (s.given.or s.said).getD s.standard

/-- The configuration is not heard, although the environment gives nothing and the default is not
what the configuration says. -/
def PassedOver (s : Sources) : Prop :=
  s.isSet = true ∧ s.given = none ∧ ∃ v, s.said = some v ∧ v ≠ s.standard

/-- What is chosen: the configuration is heard only where the variable is not set. -/
def chosen (s : Sources) : String :=
  if s.isSet then s.given.getD s.standard else s.said.getD (s.given.getD s.standard)

variable {s : Sources}

/-- **How a setting is decided**: by the order of precedence exactly if the configuration is not
passed over, and by the default if it is. -/
structure Decide (s : Sources) (value : String) : Prop where
  settled_iff : value = s.settled ↔ ¬ s.PassedOver
  standard : s.PassedOver → value = s.standard

/-- **What is chosen decides the setting.**  Where the environment gives something its variable is
set. -/
theorem decide_chosen {s : Sources} (hset : s.given.isSome = true → s.isSet = true) :
    s.Decide s.chosen := by
  obtain ⟨isSet, given, said, standard⟩ := s
  cases given with
  | some text =>
    obtain rfl : isSet = true := hset rfl
    exact ⟨by simp [chosen, settled, PassedOver], fun h => by cases h.2.1⟩
  | none =>
    cases isSet with
    | false => exact ⟨by simp [chosen, settled, PassedOver], fun h => by cases h.1⟩
    | true => exact ⟨by cases said <;> simp [chosen, settled, PassedOver, eq_comm], fun _ => rfl⟩

end Sources

/-! ## 2. Connections -/

namespace Connection

variable (c : Config) (env : Variables)

/-- The sources of the address. -/
def urlSources : Sources :=
  ⟨env.isSet urlVariable, urlFrom env, c.storage.url, standard.url⟩

/-- The sources of the namespace. -/
def namespaceSources : Sources :=
  ⟨env.isSet namespaceVariable, env.value? namespaceVariable, c.storage.namespace_,
    standard.namespace_⟩

/-- The sources of the database. -/
def databaseSources : Sources :=
  ⟨env.isSet databaseVariable, env.value? databaseVariable, c.storage.database, standard.database⟩

variable {c : Config} {env : Variables}

theorem isSet_of_value? {name : String} (h : (env.value? name).isSome = true) :
    env.isSet name = true := by
  unfold Variables.value? at h
  unfold Variables.isSet
  cases hstate : env.state name with
  | text value => rfl
  | unset | bytes => simp [hstate] at h

theorem isSet_of_urlFrom (h : (urlFrom env).isSome = true) : env.isSet urlVariable = true := by
  refine isSet_of_value? ?_
  unfold urlFrom at h
  cases hvalue : env.value? urlVariable with
  | some url => rfl
  | none => simp [hvalue] at h

/-- **A variable is set and gives nothing** where it holds no text. -/
theorem silent_iff {name : String} :
    (env.isSet name = true ∧ env.value? name = none) ↔ env.state name = .bytes := by
  unfold Variables.isSet Variables.value?
  cases env.state name <;> simp

/-- The variable of the address is set and gives nothing where it holds no text or a blank one. -/
theorem silent_url_iff :
    (env.isSet urlVariable = true ∧ urlFrom env = none) ↔
      env.state urlVariable = .bytes ∨
        ∃ url, env.state urlVariable = .text url ∧ blankText url = true := by
  unfold Variables.isSet urlFrom Variables.value?
  cases env.state urlVariable <;> simp

/-- User and password come together. -/
theorem exists_credentialsFrom_iff :
    (∃ who, credentialsFrom env = .ok who) ↔
      ((env.value? userVariable).isSome ↔ (env.value? passwordVariable).isSome) := by
  unfold credentialsFrom
  cases env.value? userVariable <;> cases env.value? passwordVariable <;> simp

theorem fromEnvironment_eq : fromEnvironment env = (credentialsFrom env).map fun who =>
    ⟨(urlFrom env).getD standard.url, (env.value? namespaceVariable).getD standard.namespace_,
      (env.value? databaseVariable).getD standard.database, who⟩ := by
  unfold fromEnvironment
  cases urlFrom env <;> cases credentialsFrom env <;> rfl

/-- **A connection** is made of what is chosen for each setting. -/
theorem connection_eq : c.connection env = ((credentialsFrom env).map fun who =>
    (⟨(urlSources c env).chosen, (namespaceSources c env).chosen, (databaseSources c env).chosen,
      who⟩ : Connection)).mapError .config := by
  unfold Config.connection
  rw [fromEnvironment_eq]
  cases credentialsFrom env <;> rfl

end Connection

/-- **Each setting of a connection is decided by the order of precedence** unless the configuration
is passed over.  A connection is made exactly if user and password are given together. -/
theorem Config.connection_settled_iff (c : Config) (env : Variables) :
    ((∃ conn, c.connection env = .ok conn) ↔ ((env.value? Connection.userVariable).isSome ↔
      (env.value? Connection.passwordVariable).isSome)) ∧
    ∀ conn, c.connection env = .ok conn →
      (Connection.urlSources c env).Decide conn.url ∧
      (Connection.namespaceSources c env).Decide conn.namespace_ ∧
      (Connection.databaseSources c env).Decide conn.database := by
  rw [← Connection.exists_credentialsFrom_iff, Connection.connection_eq]
  cases Connection.credentialsFrom env with
  | error fault => exact ⟨⟨nofun, nofun⟩, nofun⟩
  | ok who =>
    refine ⟨⟨fun _ => ⟨who, rfl⟩, fun _ => ⟨_, rfl⟩⟩, ?_⟩
    intro conn hconn
    cases hconn
    exact ⟨Sources.decide_chosen Connection.isSet_of_urlFrom,
      Sources.decide_chosen Connection.isSet_of_value?,
      Sources.decide_chosen Connection.isSet_of_value?⟩

/-- The address is blank and the variable of the namespace holds no text: the configuration is
passed over in both, and heard about the database. -/
theorem Config.connection_settled_iff_blank :
    let env : Variables := ⟨fun name =>
      if name = Connection.urlVariable then .text " "
      else if name = Connection.namespaceVariable then .bytes
      else .unset⟩
    let c : Config := { Config.standard with storage := ⟨some "mem://", some "team", some "notes"⟩ }
    ∃ conn, c.connection env = .ok conn ∧
      conn.url = Connection.standard.url ∧ (Connection.urlSources c env).settled = "mem://" ∧
      conn.url ≠ (Connection.urlSources c env).settled ∧
      conn.namespace_ ≠ (Connection.namespaceSources c env).settled ∧
      conn.database = (Connection.databaseSources c env).settled := by
  intro env c
  obtain ⟨hset, hblank⟩ : env.isSet Connection.urlVariable = true ∧ Connection.urlFrom env = none :=
    Connection.silent_url_iff.mpr (.inr ⟨" ", rfl, by decide⟩)
  have hurl : (Connection.urlSources c env).PassedOver := ⟨hset, hblank, "mem://", rfl, by decide⟩
  obtain ⟨hset, hbytes⟩ : env.isSet Connection.namespaceVariable = true ∧
      env.value? Connection.namespaceVariable = none := Connection.silent_iff.mpr rfl
  have hname : (Connection.namespaceSources c env).PassedOver :=
    ⟨hset, hbytes, "team", rfl, by decide⟩
  have hheard : ¬ (Connection.databaseSources c env).PassedOver := fun h =>
    absurd h.1 (by decide)
  obtain ⟨hmade, hdecided⟩ := Config.connection_settled_iff c env
  obtain ⟨conn, hconn⟩ := hmade.mpr (by decide)
  obtain ⟨hu, hn, hd⟩ := hdecided conn hconn
  exact ⟨conn, hconn, hu.standard hurl, by decide, fun h => hu.settled_iff.mp h hurl,
    fun h => hn.settled_iff.mp h hname, hd.settled_iff.mpr hheard⟩

end Curation
