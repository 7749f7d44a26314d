import Neighborhood.Metrics

/-!
# Metrics as text

The metrics in the text form that a collector reads: families in the order of their names, each with a line of
help, a line of its kind and its samples.

* `Seconds.text` — microseconds as a decimal number of seconds without needless digits
* `Metrics.families` — every count, with its name and help
* `Metrics.exposition` — the whole text; a family without samples is left out
-/

namespace Neighborhood

/-! ## Decimals -/

namespace Seconds

/-- The six digits of a fraction, zeros at the end left out. -/
def fraction (micros : Nat) : List Char :=
  let digits := Nat.toDigits 10 micros
  let padded := List.replicate (6 - digits.length) '0' ++ digits
  (padded.reverse.dropWhile (· == '0')).reverse

def text (micros : Nat) : String :=
  let whole := toString (micros / 1000000)
  if micros % 1000000 = 0 then whole else whole ++ "." ++ String.ofList (fraction (micros % 1000000))

end Seconds

/-! ## Families -/

/-- A line of a family: what follows its name, and the number. -/
structure Sample where
  suffix : String := ""
  label : Option (String × String) := none
  value : String

structure Family where
  name : String
  help : String
  kind : String
  samples : List Sample

namespace Family

def labelText : Option (String × String) → String
  | none => ""
  | some (name, value) => "\x7b" ++ name ++ "=\"" ++ value ++ "\"\x7d"

def lines (f : Family) : List String :=
  if f.samples.isEmpty then []
  else
    ["# HELP " ++ f.name ++ " " ++ f.help, "# TYPE " ++ f.name ++ " " ++ f.kind] ++
      f.samples.map fun s => f.name ++ s.suffix ++ labelText s.label ++ " " ++ s.value

def single (name help kind : String) (n : Nat) : Family :=
  ⟨name, help, kind, [{ value := toString n }]⟩

/-- One sample for every kind of packet that was seen, in the order of their labels. -/
def tally (name help : String) (t : Tally) : Family :=
  let kinds := (Packet.Kind.all.filter fun k => t k ≠ 0).mergeSort fun a b => a.label ≤ b.label
  ⟨name, help, "counter", kinds.map fun k => { label := some ("type", k.label), value := toString (t k) }⟩

end Family

namespace Histogram

/-- The upper ends of the buckets, in microseconds. -/
def bounds : List Nat :=
  [100, 500, 1000, 5000, 10000, 50000, 100000, 500000, 1000000]

/-- A bucket counts the samples up to its end, the end included; the last bucket has none. -/
def samplesText (h : Histogram) : List Sample :=
  bounds.map (fun b => ⟨"_bucket", some ("le", Seconds.text b), toString (h.countUpTo b)⟩) ++
    [⟨"_bucket", some ("le", "+Inf"), toString h.count⟩, ⟨"_sum", none, Seconds.text (h.samples.foldl (· + ·) 0)⟩,
      ⟨"_count", none, toString h.count⟩]

end Histogram

namespace Metrics

variable (m : Metrics)

def families : List Family :=
  [.single "nwpd_frames_malformed_total" "Frames discarded as malformed or rejected" "counter" m.malformed,
    .tally "nwpd_frames_received_total" "NWP frames received by packet type" m.received,
    .tally "nwpd_frames_sent_total" "NWP frames sent by packet type" m.sent,
    .single "nwpd_investigations_total" "Ack timeouts escalated to investigative probes" "counter" m.investigations,
    .single "nwpd_neighbors" "Current number of neighbor entries" "gauge" m.neighbors,
    .single "nwpd_neighbors_added_total" "Neighbor entries created" "counter" m.added,
    .single "nwpd_neighbors_evicted_total" "Neighbors evicted after investigative timeout" "counter" m.evicted,
    .single "nwpd_route_errors_total" "Route table requests that failed" "counter" m.routeErrors,
    ⟨"nwpd_route_latency_seconds", "Route table request latency in seconds", "histogram",
      m.routeLatency.samplesText⟩,
    .single "nwpd_send_errors_total" "Frames that failed to send" "counter" m.sendErrors]

def exposition : List String :=
  m.families.flatMap Family.lines

end Metrics

end Neighborhood
