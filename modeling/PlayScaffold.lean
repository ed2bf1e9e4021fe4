import PlayScaffold.Main
import PlayScaffold.Operation.InPlace
import PlayScaffold.Session
import PlayScaffold.Proofs.ByteOrder
import PlayScaffold.Proofs.KeyMap
import PlayScaffold.Proofs.Casing
import PlayScaffold.Proofs.CaseMapping
import PlayScaffold.Proofs.CamelCase
import PlayScaffold.Proofs.Words
import PlayScaffold.Proofs.ProperCase
import PlayScaffold.Proofs.Route
import PlayScaffold.Proofs.RouteSyntax
import PlayScaffold.Proofs.RouteGrammar
import PlayScaffold.Proofs.RouteNames
import PlayScaffold.Proofs.RouteFaults
import PlayScaffold.Proofs.Brackets
import PlayScaffold.Proofs.ContainerType
import PlayScaffold.Proofs.ContainerGrammar
import PlayScaffold.Proofs.BracketCounts
import PlayScaffold.Proofs.Options
import PlayScaffold.Proofs.Passes
import PlayScaffold.Proofs.Artifact
import PlayScaffold.Proofs.Bundle
import PlayScaffold.Proofs.Destinations
import PlayScaffold.Proofs.Expansion
import PlayScaffold.Proofs.AuthMethods
import PlayScaffold.Proofs.Derived
import PlayScaffold.Proofs.Classes
import PlayScaffold.Proofs.Rendering
import PlayScaffold.Proofs.ReadBack
import PlayScaffold.Proofs.SchemeRoundTrip
import PlayScaffold.Proofs.ForeignFields
import PlayScaffold.Proofs.JsonText
import PlayScaffold.Proofs.SchemeDigest
import PlayScaffold.Proofs.ScopeNarrowing
import PlayScaffold.Proofs.OperationRoundTrip
import PlayScaffold.Proofs.FormLinks
import PlayScaffold.Proofs.Footprint
import PlayScaffold.Proofs.Renaming
import PlayScaffold.Proofs.Isolation
import PlayScaffold.Proofs.Relinking
import PlayScaffold.Proofs.Copies
import PlayScaffold.Proofs.InPlaceRun
import PlayScaffold.Proofs.SharedUploads
import PlayScaffold.Proofs.Failure
import PlayScaffold.Proofs.Independence
import PlayScaffold.Proofs.Warnings
import PlayScaffold.Proofs.ProperCase
