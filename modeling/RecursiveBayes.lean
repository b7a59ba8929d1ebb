/-
Recursive Bayesian networks over sequences: networks of discrete variables whose
values emit symbols or split their span in two, the inside pass that computes the
probability of a sequence, and the compilation of weighted grammars into such
networks.
-/

import RecursiveBayes.Chart.Written
import RecursiveBayes.Grammar.NamedChart
import RecursiveBayes.Network.Builder
import RecursiveBayes.Network.Draft
import RecursiveBayes.Network.Inside
import RecursiveBayes.Proofs.Cell.Reporting
import RecursiveBayes.Proofs.Chart.PartialMap
import RecursiveBayes.Proofs.Grammar.Declared
import RecursiveBayes.Proofs.Grammar.Named
import RecursiveBayes.Proofs.Network.Acceptance
import RecursiveBayes.Proofs.Network.AnyOrder
import RecursiveBayes.Proofs.Network.Counts
import RecursiveBayes.Proofs.Network.Derivation
import RecursiveBayes.Proofs.Network.Healing
import RecursiveBayes.Proofs.Network.Locality
import RecursiveBayes.Proofs.Network.Mirror
import RecursiveBayes.Proofs.Network.Relabelling
import RecursiveBayes.Proofs.Network.Support
import RecursiveBayes.Proofs.Network.Uniform
import RecursiveBayes.Proofs.Network.Updating
import RecursiveBayes.Proofs.Protocol.Course
import RecursiveBayes.Proofs.Rule.RoundTrip
import RecursiveBayes.Proofs.Schedule.Work
import RecursiveBayes.Protocol.Scripted
import RecursiveBayes.Scalar.Binary64
import RecursiveBayes.Scalar.Rational
