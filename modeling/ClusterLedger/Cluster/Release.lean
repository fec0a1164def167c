import ClusterLedger.Resource

namespace ClusterLedger.Release

def markKey : String := "TKGVERSION"

def ofCluster (cluster : Value) : Except Failure Value := do
  let metadata ← Resource.field cluster "metadata"
  let marks := (← Resource.field metadata "annotations").orElse (.map [])
  Resource.getOr marks markKey (.text "")

end ClusterLedger.Release
