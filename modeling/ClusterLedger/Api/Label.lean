import ClusterLedger.Assoc
import ClusterLedger.Text.Split

namespace ClusterLedger

abbrev Labels := List (String × String)

namespace Label

def clusterName : String := "cluster.x-k8s.io/cluster-name"
def deploymentName : String := "cluster.x-k8s.io/deployment-name"

end Label

namespace Selector

def ofLabels (labels : Labels) : String :=
  ",".intercalate (labels.map fun (key, value) => key ++ "=" ++ value)

def cluster (name : String) : String := ofLabels [(Label.clusterName, name)]

def deployment (name : String) : String := ofLabels [(Label.deploymentName, name)]

/-- A term with an equals sign asks for a value, one without for the key; an empty one holds. -/
def termHolds (labels : Labels) (term : List Char) : Bool :=
  let key := String.ofList (term.takeWhile (· ≠ '='))
  match term.dropWhile (· ≠ '=') with
  | [] => term.isEmpty || Assoc.contains key labels
  | _ :: value => Assoc.find? key labels = some (String.ofList value)

def holds (selector : String) (labels : Labels) : Bool :=
  (Text.splitAt ',' selector.toList).all (termHolds labels)

end Selector
end ClusterLedger
