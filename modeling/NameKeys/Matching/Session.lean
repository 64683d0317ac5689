import NameKeys.Matching.Pattern

/-!
# Sessions

A session keeps normalizers and patterns under names of their own and answers requests about them in
order. A request that fails changes nothing.
-/

namespace NameKeys

/-- The normalizers and the patterns made so far, each under its name. -/
structure Session where
  normalizers : List (Text × Profile)
  patterns : List (Text × Pattern)

namespace Session

/-- What a session can be asked to do. -/
inductive Request where
  | create (id : Text) (options : Value)
  | createExact (id : Text)
  | createFrom (id : Text) (form fold : Value)
  | normalize (on : Text) (name : Value)
  | equivalent (on : Text) (first second : Value)
  | compile (id on : Text) (name : Value)
  | showPattern (on : Text)
  | matchCandidate (on : Text) (candidate : Value)

/-- What a request is answered with. -/
inductive Answer where
  | normalizer (profile : Profile)
  | key (key : Text)
  | verdict (equivalent : Bool)
  | pattern (pattern : Pattern)
  | matched (answer : Bool) (key? : Option Text)

/-- Why a request fails. -/
inductive Failure where
  | options (error : OptionsError)
  | notText (error : NotText)
  | undefined (id : Text)

/-- The session before the first request. -/
def empty : Session := ⟨[], []⟩

/-- The entries with a value under a name, in place of one that was there. -/
def store {α : Type} (id : Text) (value : α) (entries : List (Text × α)) : List (Text × α) :=
  (id, value) :: entries.filter fun entry => entry.1 ≠ id

def fetch {α : Type} (id : Text) (entries : List (Text × α)) : Except Failure α :=
  match List.lookup id entries with
  | some value => .ok value
  | none => .error (.undefined id)

/-- Keeps a normalizer of a profile, if there is one. -/
def keepNormalizer (s : Session) (id : Text) :
    Except OptionsError Profile → Except Failure Answer × Session
  | .ok profile =>
    (.ok (.normalizer profile), { s with normalizers := store id profile s.normalizers })
  | .error error => (.error (.options error), s)

def nameOf (value : Value) : Except Failure Text := value.toName.mapError .notText

/-- The answer to a request and the session after it. -/
def step (s : Session) : Request → Except Failure Answer × Session
  | .create id options => s.keepNormalizer id (Profile.create options)
  | .createExact id => s.keepNormalizer id (.ok .exact)
  | .createFrom id form fold => s.keepNormalizer id (Profile.ofChoices form fold)
  | .normalize on name =>
    ((do
      let profile ← fetch on s.normalizers
      return .key (profile.key (← nameOf name))), s)
  | .equivalent on first second =>
    ((do
      let profile ← fetch on s.normalizers
      return .verdict (profile.equivalent (← nameOf first) (← nameOf second))), s)
  | .compile id on name =>
    match (do return Pattern.compile (← fetch on s.normalizers) (← nameOf name)) with
    | .ok pattern => (.ok (.pattern pattern), { s with patterns := store id pattern s.patterns })
    | .error failure => (.error failure, s)
  | .showPattern on => ((fetch on s.patterns).map .pattern, s)
  | .matchCandidate on candidate =>
    match fetch on s.patterns with
    | .error failure => (.error failure, s)
    | .ok pattern =>
      let (answer, after) := pattern.matchValue candidate
      (match answer with
        | .ok answer => .ok (.matched answer after.key?)
        | .error error => .error (.notText error),
        { s with patterns := store on after s.patterns })

def run (s : Session) : List Request → List (Except Failure Answer)
  | [] => []
  | request :: rest =>
    let (answer, s) := s.step request
    answer :: s.run rest

end Session

end NameKeys
