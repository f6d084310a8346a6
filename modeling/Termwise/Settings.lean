import Termwise.Draw.Twister
import Termwise.Equivalence.Config
import Termwise.Schema.Field
import Termwise.Schema.Scalar
import Termwise.Text.Start

/-
  This file defines the settings of the program and how they
  are read, from given fields and from the variables of an
  environment.

  A setting that is given wins over one of the environment,
  and what is not looked at cannot be wrong.  Case is no
  matter in names, and those that belong to no setting are
  passed over.

  Key definitions include:
    * `Settings`
    * `Settings.standard`
    * `Settings.ofFields`
    * `Settings.plainName`
    * `Settings.givenFields`
    * `Settings.settingName?`
    * `Settings.environmentFields`
    * `Settings.read`
    * `Settings.config`
    * `Settings.source`
-/

namespace Termwise

/- The settings of the program. -/
structure Settings where
  trials : Int
  low : Int
  high : Int
  tolerance : Double
  seed : Option Int
  logLevel : String
  title : String
  version : String
deriving DecidableEq, Repr

namespace Settings

/- The settings unless others are given. -/
def standard : Settings where
  trials := 10
  low := -50
  high := 50
  tolerance := Config.standardTolerance
  seed := none
  logLevel := "INFO"
  title := "AlgebraEngine"
  version := "0.1.0"

------------------------------------------------------------
-- Reading Fields
------------------------------------------------------------

/- Read settings from fields, each under its plain name. -/
def ofFields (fields : List (String × Json)) :
    Checked Settings :=
  let int (key : String) (default : Int) :=
    defaulted key fields (Checked.taken Scalar.integer) default
  let text (key default : String) :=
    defaulted key fields (Checked.taken Scalar.text) default
  (Checked.both
    (int "equivalence_trials" standard.trials)
    (Checked.both
      (int "sample_low" standard.low)
      (Checked.both
        (int "sample_high" standard.high)
        (Checked.both
          (defaulted "tolerance" fields
            (Checked.taken Scalar.double) standard.tolerance)
          (Checked.both
            (defaulted "random_seed" fields
              (Checked.taken (Scalar.optional Scalar.integer))
              standard.seed)
            (Checked.both
              (text "log_level" standard.logLevel)
              (Checked.both
                (text "app_title" standard.title)
                (text "app_version" standard.version)))))))).map
    fun (trials, low, high, tolerance, seed, level, title,
        version) =>
      ⟨trials, low, high, tolerance, seed, level, title,
        version⟩

------------------------------------------------------------
-- Given Fields
------------------------------------------------------------

/- A name in lower case, as the settings have it. -/
def plainName (name : String) : List Char :=
  name.toList.map Char.toLower

/-
  Given fields under their plain names.  Of those with one
  name the first one counts.
-/
def givenFields
    (given : List (String × Json)) : List (String × Json) :=
  given.map fun (name, v) => (String.ofList (plainName name), v)

------------------------------------------------------------
-- Reading the Environment
------------------------------------------------------------

/- What the names of the program's variables start with. -/
def variablePrefix : List Char :=
  "algebra_engine_".toList

/- The name of the setting that a variable is for. -/
def settingName? (name : String) : Option String :=
  (Text.afterStart? variablePrefix (plainName name)).map
    String.ofList

/-
  The fields that variables stand for.  Of variables with
  one name the last one counts.
-/
def environmentFields
    (env : List (String × String)) : List (String × Json) :=
  (env.filterMap fun (name, value) =>
    (settingName? name).map fun key =>
      (key, .text value)).reverse

/- Read settings from given fields and an environment. -/
def read
    (given : List (String × Json))
    (env : List (String × String)) : Checked Settings :=
  ofFields (givenFields given ++ environmentFields env)

------------------------------------------------------------
-- Settings of a Check
------------------------------------------------------------

/-
  The settings of a check, with the number of trials taken
  from elsewhere if it is given there.
-/
def config
    (s : Settings)
    (trials : Option Int) : Except ConfigFault Config :=
  Config.make (trials.getD s.trials) s.low s.high s.tolerance

/-
  The random source of a check: from a seed that is given,
  or else from the one of the settings, or else a fresh one.
-/
def source
    (s : Settings)
    (seed : Option Int)
    (fresh : Twister) : Twister :=
  match seed.or s.seed with
  | some n => Twister.ofSeed n
  | none => fresh

end Settings

end Termwise
