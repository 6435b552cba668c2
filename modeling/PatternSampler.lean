import PatternSampler.Main
import PatternSampler.Proofs.Assertion
import PatternSampler.Proofs.Batch
import PatternSampler.Proofs.Batch.Prefixes
import PatternSampler.Proofs.CommandLine.Agreement
import PatternSampler.Proofs.CommandLine.Lines
import PatternSampler.Proofs.Expr.Refusals
import PatternSampler.Proofs.Expr.Segments
import PatternSampler.Proofs.Generator.Counterparts
import PatternSampler.Proofs.Generator.Matching
import PatternSampler.Proofs.Generator.Trail
import PatternSampler.Proofs.Generator.Uniform
import PatternSampler.Proofs.Generator.Windows
import PatternSampler.Proofs.Parse.Accepted
import PatternSampler.Proofs.Parse.Anchors
import PatternSampler.Proofs.Parse.Composition
import PatternSampler.Proofs.Parse.Filled
import PatternSampler.Proofs.Parse.Outline
import PatternSampler.Proofs.Parse.Progress
import PatternSampler.Proofs.Parse.Shapes
import PatternSampler.Proofs.Parse.Slices
import PatternSampler.Proofs.Random.Unfailing
import PatternSampler.Proofs.Settings.Exact
import PatternSampler.Proofs.Token.Listing
import PatternSampler.Proofs.Tree.Places
import PatternSampler.Tree.Shape
