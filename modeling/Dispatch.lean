import Dispatch.Document.Json
import Dispatch.Error
import Dispatch.Handler.Stock
import Dispatch.Log.Logger
import Dispatch.Session
import Dispatch.Settings.Load
import Dispatch.Settings.Strict
import Dispatch.Proofs.Resolving
import Dispatch.Proofs.Preservation
import Dispatch.Proofs.Bookkeeping
import Dispatch.Proofs.CacheIntegrity
import Dispatch.Proofs.EntryPoints
import Dispatch.Proofs.CallerAgreement
import Dispatch.Proofs.SelfReentry
import Dispatch.Proofs.DependencyConstruction
import Dispatch.Proofs.Chronicle
import Dispatch.Proofs.Conservation
import Dispatch.Proofs.EventOrder
import Dispatch.Proofs.Lockstep
import Dispatch.Proofs.Strictness
import Dispatch.Proofs.FailureReasons
import Dispatch.Proofs.Racing
import Dispatch.Proofs.Layers
import Dispatch.Proofs.LocatorGrammar
import Dispatch.Proofs.ComposedNames
import Dispatch.Proofs.Composition
import Dispatch.Proofs.Numbering
import Dispatch.Proofs.PublishedNames
import Dispatch.Proofs.Immunity
import Dispatch.Proofs.OrderIndependence
import Dispatch.Proofs.Tallying
import Dispatch.Proofs.Neighbours
import Dispatch.Proofs.Resemblance
import Dispatch.Proofs.PairedCalls
import Dispatch.Proofs.Independence
import Dispatch.Proofs.LetterCase
import Dispatch.Proofs.Relevance
import Dispatch.Proofs.LocatorDispatch
import Dispatch.Proofs.LocatorEquality
import Dispatch.Proofs.UntouchedNames
import Dispatch.Proofs.Retrying
import Dispatch.Proofs.NormalForm
import Dispatch.Proofs.DispatchNames
import Dispatch.Proofs.ReaderAgreement
import Dispatch.Proofs.NumberLiterals
import Dispatch.Proofs.Switches
import Dispatch.Proofs.StrictReading
import Dispatch.Proofs.OptionalFile
import Dispatch.Proofs.Rebinding
import Dispatch.Proofs.Rounding
import Dispatch.Proofs.ShortestDecimals
import Dispatch.Proofs.PlainDecimals
import Dispatch.Proofs.LevelText
import Dispatch.Proofs.LogOutput
import Dispatch.Proofs.LocatorSlices
