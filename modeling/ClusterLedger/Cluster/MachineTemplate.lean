import ClusterLedger.Cluster.Reference
import ClusterLedger.Number.Quantity

namespace ClusterLedger

structure MachineTemplate where
  name : String
  sizingPolicy : String
  placementPolicy : String
  gpuEnabled : Bool
  storageProfile : String
  /-- Whole mebibytes of disk. -/
  diskSize : Int
  deriving DecidableEq, Repr

namespace MachineTemplate

def quantity (v : Value) : Except QuantityError Decimal :=
  match v with
  | .number n => .ok (Decimal.ofNumber n)
  | .bool b => .ok (Decimal.ofNumber (.whole b.toNat))
  | .decimal d => .ok d
  | v => Quantity.parse v.shown

def mebibytes : Decimal → Except Failure Int
  | .finite bytes =>
    match Quantity.wholeMebibytes? bytes with
    | some n => .ok n
    | none => .error .noQuotient
  | .infinite _ => .error .infiniteSize
  | .nan _ signaling _ => .error (if signaling then .noQuotient else .badValue .notANumber)

def diskSizeOf (v name : Value) : Except Failure Int :=
  match v with
  | .null => .ok 0
  | .text "" => .ok 0
  | v =>
    match quantity v with
    | .ok bytes => mebibytes bytes
    | .error e =>
      .error (.misconfigured (.invalidDiskSize v.shown e.message)
        { kind := some "VCDMachineTemplate", name := name.toOption })

def check (fields : Fields) (gpuEnabled : Bool) (diskSize : Int) : Checked MachineTemplate :=
  (fun name sizing placement storage =>
      MachineTemplate.mk name sizing placement gpuEnabled storage diskSize)
    <$> Field.required fields "name" Field.text
    <*> Field.withDefault "" fields "sizing_policy" Field.text
    <*> Field.withDefault "" fields "placement_policy" Field.text
    <*> Field.withDefault "" fields "storage_profile" Field.text

def ofResource (resource : Value) (guise : Guise := .client) : Except Failure MachineTemplate := do
  let metadata ← Resource.field resource "metadata"
  let spec := Resource.part resource "spec"
  let template ← Resource.getOr spec "template" (.map []) guise
  let machineSpec ← Resource.getOr template "spec" (.map []) guise
  let name ← Resource.field metadata "name"
  let sizing ← Resource.get machineSpec "sizingPolicy" guise
  let placement ← Resource.get machineSpec "placementPolicy" guise
  let gpu ← Resource.getOr machineSpec "enableNvidiaGPU" (.bool false) guise
  let storage ← Resource.get machineSpec "storageProfile" guise
  let diskSize ← diskSizeOf (← Resource.get machineSpec "diskSize" guise) name
  let orEmpty (v : Value) := guise.orElse v (.text "")
  (check (Field.ofList [("name", name), ("sizing_policy", orEmpty sizing),
    ("placement_policy", orEmpty placement), ("storage_profile", orEmpty storage)])
    (guise.counts gpu) diskSize).toExcept

end MachineTemplate
end ClusterLedger
