/-
What single steps at a site can do, said without a view of the engine: what a
container is resolved as, how a creation can go, and what waiting for health
consists of. What a step does to the stock (`Effect`) and what it is allowed
to do (`Provenance`) are both read off these, so a branch that is added to a
step is added here.
-/
import Fleetkeeper.Upgrade.Site

namespace Fleetkeeper.Site

variable {σ : Type} {e : Site σ}

/-- A container as resolved is the one that was loaded. -/
theorem resolved_id (c : Container) (i : Inspection) :
    (resolved c i).id = c.id := by
  unfold resolved
  dsimp only
  split <;> rfl

/-- It has the configuration that the inspection tells. -/
theorem resolved_config (c : Container) (i : Inspection) :
    (resolved c i).config = some i.toSpec := by
  unfold resolved
  dsimp only
  split <;> rfl

/-- Its image is that of the configuration. -/
theorem resolved_image (c : Container) (i : Inspection) :
    (resolved c i).image = i.toSpec.image := by
  unfold resolved
  dsimp only
  split <;> rfl

/-- The ways in which the creation of a container can go from world `s`. -/
inductive Creation (e : Site σ) (c : Container) (s : σ) :
    Except Fault Container → σ → Prop where
  | unconfigured (hspec : c.config = none) :
      Creation e c s
        (.error (.batch ("No configuration to create " ++ c.toText))) s
  | refused {spec : ContainerSpec} {f : Fault} {s' : σ}
      (hcreate : e.api.create c.name spec s = (.error f, s'))
      (hspec : c.config = some spec) :
      Creation e c s (.error f) s'
  | cleaned {spec : ContainerSpec} {id : String} {f : Fault} {s₁ s₂ s' : σ}
      (hcreate : e.api.create c.name spec s = (.ok id, s₁))
      (hstart : e.api.start id s₁ = (.error f, s₂))
      (hremove : e.api.remove id true s₂ = (.ok (), s'))
      (hspec : c.config = some spec) :
      Creation e c s (.error f) s'
  | uncleaned {spec : ContainerSpec} {id : String} {f g : Fault}
      {s₁ s₂ s₃ : σ} {line : LogLine}
      (hcreate : e.api.create c.name spec s = (.ok id, s₁))
      (hstart : e.api.start id s₁ = (.error f, s₂))
      (hremove : e.api.remove id true s₂ = (.error g, s₃))
      (hspec : c.config = some spec) :
      Creation e c s (.error f) (e.attendant.log line s₃)
  | created {spec : ContainerSpec} {id : String} {s₁ s' : σ}
      (hspec : c.config = some spec)
      (hcreate : e.api.create c.name spec s = (.ok id, s₁))
      (hstart : e.api.start id s₁ = (.ok (), s')) :
      Creation e c s (.ok { c with id }) s'

/-- `create` goes in one of these ways. -/
theorem creation_of_create {c : Container} {a : Except Fault Container}
    {s s' : σ} (h : e.create c s = (a, s')) : Creation e c s a s' := by
  unfold create at h
  split at h
  case h_1 hspec =>
    cases h
    exact .unconfigured hspec
  case h_2 spec hspec =>
    split at h
    case h_1 hcreate =>
      cases h
      exact .refused hcreate hspec
    case h_2 hcreate =>
      split at h
      case h_1 hstart =>
        cases h
        exact .created hspec hcreate hstart
      case h_2 hstart =>
        split at h
        case h_1 hremove =>
          cases h
          exact .cleaned hcreate hstart hremove hspec
        case h_2 hremove =>
          cases h
          exact .uncleaned hcreate hstart hremove hspec

/-- Waiting for health is a sequence of inspections, log lines and pauses, so
what each of these keeps it keeps too. By induction on the looks that are
left. -/
theorem checkFrom_of_steps {R : σ → σ → Prop} {c : Container} {attempts : Nat}
    (htrans : ∀ {s₁ s₂ s₃}, R s₁ s₂ → R s₂ s₃ → R s₁ s₃)
    (hinspect : ∀ {s a s'}, e.api.inspect c.id s = (a, s') → R s s')
    (hlog : ∀ line s, R s (e.attendant.log line s))
    (hwait : ∀ secs s, R s (e.attendant.wait secs s)) :
    ∀ {left : Nat} {s s' : σ} {a : Except Fault Bool},
      e.checkFrom c attempts left s = (a, s') → R s s' := by
  intro left
  induction left with
  | zero =>
    intro s s' a h
    unfold checkFrom at h
    split at h
    case h_1 hlook =>
      cases h
      exact hinspect hlook
    case h_2 hlook =>
      split at h
      case h_1 =>
        cases h
        exact hinspect hlook
      case h_2 =>
        cases h
        exact htrans (htrans (hinspect hlook) (hlog _ _)) (hlog _ _)
  | succ left ih =>
    intro s s' a h
    unfold checkFrom at h
    split at h
    case h_1 hlook =>
      cases h
      exact hinspect hlook
    case h_2 hlook =>
      split at h
      case h_1 =>
        cases h
        exact hinspect hlook
      case h_2 =>
        have hrest := ih h
        refine htrans (htrans (hinspect hlook) ?_) hrest
        exact htrans (hlog _ _) (hwait _ _)

end Fleetkeeper.Site
