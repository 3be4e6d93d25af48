import MipDispatch.Backend.ZeroPoint
import MipDispatch.Engine.Adapter

namespace MipDispatch

inductive StockBackend where
  | engine (a : Engine.Adapter)
  | zeroPoint (z : ZeroPoint)
  | inert (b : Inert)

namespace StockBackend

def liftRun {β : Type} (f : β → StockBackend) (r : SolveRun β) : SolveRun StockBackend :=
  ⟨r.result, f r.backend, r.solution, r.host, r.trace⟩

instance : Backend StockBackend where
  name
    | engine a => Backend.name a
    | zeroPoint z => Backend.name z
    | inert b => Backend.name b
  capabilities
    | engine a => Backend.capabilities a
    | zeroPoint z => Backend.capabilities z
    | inert b => Backend.capabilities b
  declare
    | engine a, n, k, o => (Backend.declare a n k o).within engine
    | zeroPoint z, n, k, o => (Backend.declare z n k o).within zeroPoint
    | inert b, n, k, o => (Backend.declare b n k o).within inert
  demand
    | engine a => Backend.demand a
    | zeroPoint z => Backend.demand z
    | inert b => Backend.demand b
  setObjective
    | engine a, o => (Backend.setObjective a o).within engine
    | zeroPoint z, o => (Backend.setObjective z o).within zeroPoint
    | inert b, o => (Backend.setObjective b o).within inert
  setConstraints
    | engine a, cs => (Backend.setConstraints a cs).within engine
    | zeroPoint z, cs => (Backend.setConstraints z cs).within zeroPoint
    | inert b, cs => (Backend.setConstraints b cs).within inert
  addConstraint
    | engine a, c => (Backend.addConstraint a c).within engine
    | zeroPoint z, c => (Backend.addConstraint z c).within zeroPoint
    | inert b, c => (Backend.addConstraint b c).within inert
  tune
    | engine a, t => engine (Backend.tune a t)
    | zeroPoint z, t => zeroPoint (Backend.tune z t)
    | inert b, t => inert (Backend.tune b t)
  listen
    | engine a, l => (Backend.listen a l).within engine
    | zeroPoint z, l => (Backend.listen z l).within zeroPoint
    | inert b, l => (Backend.listen b l).within inert
  hasListener
    | engine a => Backend.hasListener a
    | zeroPoint z => Backend.hasListener z
    | inert b => Backend.hasListener b
  solve
    | engine a, h, s => liftRun engine (Backend.solve a h s)
    | zeroPoint z, h, s => liftRun zeroPoint (Backend.solve z h s)
    | inert b, h, s => liftRun inert (Backend.solve b h s)

end StockBackend

end MipDispatch
