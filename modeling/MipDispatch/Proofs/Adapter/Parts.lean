import MipDispatch.Proofs.Adapter.Listeners
import MipDispatch.Proofs.Problem.Tuning

namespace MipDispatch

namespace Request

def tuning? : Request → Option TuningCall
  | .tune call => some call
  | _ => none

def staging? : Request → Option Request
  | .tune _ | .listen _ | .solve _ => none
  | r => some r

end Request

namespace Engine.Adapter

variable {a b : Adapter}

def stage (p : Problem) (r : Request) : Problem :=
  (Backend.serve { fresh with problem := p } ⟨none, [], 0⟩ r).backend.problem

theorem serve_problem (a : Adapter) (h : Host) (r : Request) :
    (Backend.serve a h r).backend.problem = r.staging?.elim a.problem (stage a.problem) := by
  let bare : Adapter := { fresh with problem := a.problem }
  cases r with
  | declare n kind overrides => rfl
  | setObjective o =>
    change (a.setObjective o).state.problem = (bare.setObjective o).state.problem
    have hkinds : bare.checkKinds o = a.checkKinds o := rfl
    unfold setObjective
    rw [hkinds]
    split <;> rfl
  | setConstraints cs =>
    change (a.setConstraints cs).state.problem = (bare.setConstraints cs).state.problem
    unfold setConstraints
    split <;> rfl
  | addConstraint c =>
    change (a.addConstraint c).state.problem = (bare.addConstraint c).state.problem
    unfold addConstraint
    split <;> rfl
  | tune call => rfl
  | listen listener => rfl
  | solve s => exact congrArg problem (a.solve_backend h s)

theorem serve_tuning (a : Adapter) (h : Host) (r : Request) :
    (Backend.serve a h r).backend.tuning = r.tuning?.elim a.tuning a.tuning.apply := by
  cases r with
  | setObjective o =>
    change (a.setObjective o).state.tuning = a.tuning
    unfold setObjective
    split <;> rfl
  | setConstraints cs =>
    change (a.setConstraints cs).state.tuning = a.tuning
    unfold setConstraints
    split <;> rfl
  | addConstraint c =>
    change (a.addConstraint c).state.tuning = a.tuning
    unfold addConstraint
    split <;> rfl
  | solve s => exact congrArg tuning (a.solve_backend h s)
  | declare n kind overrides => rfl
  | tune call => rfl
  | listen listener => rfl

theorem converse_problem (a : Adapter) (h : Host) (rs : List Request) :
    (Backend.converse a h rs).backend.problem =
      (rs.filterMap Request.staging?).foldl stage a.problem :=
  Backend.converse_foldl serve_problem a h rs

theorem converse_tuning (a : Adapter) (h : Host) (rs : List Request) :
    (Backend.converse a h rs).backend.tuning =
      (rs.filterMap Request.tuning?).foldl Tuning.apply a.tuning :=
  Backend.converse_foldl serve_tuning a h rs

theorem after_tuning (h : Host) (rs : List Request) :
    (after h rs).tuning = Tuning.after (rs.filterMap Request.tuning?) :=
  converse_tuning fresh h rs

end Engine.Adapter

end MipDispatch
