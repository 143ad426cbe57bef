import PlantGrammar.Journal
import PlantGrammar.GrowthError
import PlantGrammar.Mesh.Flower

/-!
# Loading

The flower of a plant may come from elsewhere. A loader delivers it, once, to a gate that growth
looks through; either side may be given up at any time. What the loader has delivered waits in the
mail until the gate looks for it, also when the loader is gone by then.
-/

namespace PlantGrammar

/-- The side of the plant. -/
inductive Gate where
  /-- The flower has been received. -/
  | ready (f : Flower)
  /-- The flower has not been received yet. -/
  | pending
  deriving DecidableEq

/-- Both sides and what is between them. -/
structure Loading where
  /-- Whether there is a loader that may still deliver. -/
  loader : Bool
  /-- A flower that was delivered and not yet received. -/
  mail : Option Flower
  /-- The gate, unless it has been given up. -/
  gate : Option Gate
  deriving DecidableEq

namespace Loading

/-- Neither side. -/
def absent : Loading := ⟨false, none, none⟩

/-- A gate whose flower is there from the start. -/
def ready (f : Flower) : Loading := ⟨false, none, some (.ready f)⟩

/-- A loader and a gate that waits for it. -/
def pending : Loading := ⟨true, none, some .pending⟩

/-- The loader delivers and is gone. Without a gate that waits the flower is given back. -/
def deliver (l : Loading) (f : Flower) : Except Flower Unit × Loading :=
  match l.gate with
  | some .pending => (.ok (), { l with loader := false, mail := some f })
  | _ => (.error f, { l with loader := false })

/-- The loader is given up. -/
def dropLoader (l : Loading) : Loading := { l with loader := false }

/-- The gate is given up, and with it what is in the mail. -/
def dropGate (l : Loading) : Loading := { l with gate := none, mail := none }

/-- Whether the gate has received the flower. -/
def isReady (l : Loading) : Bool :=
  match l.gate with
  | some (.ready _) => true
  | _ => false

/-- Looks for the flower without waiting: the flower, nothing while it may still come, or an error
when it cannot come any more. -/
def poll (l : Loading) : Except GrowthError (Option Flower) × Loading :=
  match l.gate with
  | some (.ready f) => (.ok (some f), l)
  | some .pending =>
    match l.mail with
    | some f => (.ok (some f), { l with gate := some (.ready f), mail := none })
    | none => if l.loader then (.ok none, l) else (.error .missingFlower, l)
  | none => (.error .missingFlower, l)

/-- Waits for the flower and gives up the gate. There is no answer as long as the loader neither
delivers nor is given up. -/
def wait? (l : Loading) : Option (Except GrowthError Flower × Loading) :=
  match l.poll with
  | (.ok (some f), l) => some (.ok f, l.dropGate)
  | (.ok none, _) => none
  | (.error e, l) => some (.error e, l.dropGate)

/-- The journal when waiting begins: a gate that has its flower does not wait. -/
def recordWaiting (l : Loading) (j : Journal) : Journal :=
  if l.isReady then j else j.record .waiting

end Loading

end PlantGrammar
