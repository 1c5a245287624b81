import VolumeAttacher.Metrics

/-!
# Exposition of metrics

The text in which metrics are served: each family of samples with its help and its type, families by
name, the samples of a family by the values of their labels.
-/

namespace VolumeAttacher

namespace Exposition

/-- The type of the text's content. -/
def contentType : String := "text/plain; version=0.0.4"

/-- The name of a family. -/
def familyName (name : String) : String := "csi_attacher_" ++ name

/-- A character inside the quoted value of a label. -/
def escape : Char → List Char
  | '\\' => ['\\', '\\']
  | '"' => ['\\', '"']
  | '\n' => ['\\', 'n']
  | character => [character]

/-- A label and its value. -/
def label (entry : String × String) : String :=
  entry.1 ++ "=\"" ++ String.ofList (entry.2.toList.flatMap escape) ++ "\""

/-- The labels of a sample. -/
def labels : List (String × String) → String
  | [] => ""
  | entries => "\x7b" ++ ",".intercalate (entries.map label) ++ "\x7d"

/-- One sample. -/
def sample (name : String) (entries : List (String × String)) (value : String) : String :=
  familyName name ++ labels entries ++ " " ++ value

/-- A family with its samples; one without samples is left out. -/
def family (name help type : String) : List String → List String
  | [] => []
  | samples =>
    ["# HELP " ++ familyName name ++ " " ++ help,
     "# TYPE " ++ familyName name ++ " " ++ type] ++ samples

/-- The name of the family of latencies. -/
def durations : String := "operation_duration_seconds"

/-- The samples about how long the calls of an operation took. -/
def latency (operation : String) (latency : Latency) : List String :=
  let bucket (bound : String) (count : Nat) :=
    sample (durations ++ "_bucket") [("operation", operation), ("le", bound)] (toString count)
  List.zipWith (fun bound count => bucket bound.render count) Latency.bounds latency.within ++
    [bucket "+Inf" latency.count,
     sample (durations ++ "_sum") [("operation", operation)] latency.total.render,
     sample (durations ++ "_count") [("operation", operation)] (toString latency.count)]

/-- The sample about whether the replica leads. -/
def leader (isLeading : Bool) : String := sample "leader" [] (if isLeading then "1" else "0")

/-- The sample about how many calls had an outcome. -/
def outcome (entry : (String × String) × Nat) : String :=
  sample "operations_total" [("operation", entry.1.1), ("result", entry.1.2)]
    (toString entry.2)

/-- The lines of the text. -/
def lines (metrics : Metrics) : List String :=
  family "leader" "1 while this replica holds the leader lock" "gauge"
      [leader metrics.isLeading] ++
    family durations "Latency of driver operations" "histogram"
      (metrics.latencies.flatMap fun entry => latency entry.1 entry.2) ++
    family "operations_total" "Driver operations by outcome" "counter"
      (metrics.outcomes.map outcome)

end Exposition

end VolumeAttacher
