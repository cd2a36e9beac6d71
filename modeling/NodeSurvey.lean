import NodeSurvey.Main
import NodeSurvey.Source.Registry
import NodeSurvey.Proofs.Dict
import NodeSurvey.Proofs.Label.Aggregation
import NodeSurvey.Proofs.Label.WellFormed
import NodeSurvey.Proofs.Agent.Serve
import NodeSurvey.Proofs.Label.LastWriter
import NodeSurvey.Proofs.Agent.Course
import NodeSurvey.Proofs.Agent.Publishing
import NodeSurvey.Proofs.Path.Lineage
import NodeSurvey.Proofs.Watch.FileTree
import NodeSurvey.Proofs.Watch.Scene
import NodeSurvey.Proofs.Agent.Reloading
import NodeSurvey.Proofs.Config.Memory
import NodeSurvey.Proofs.Settings.Plain
import NodeSurvey.Proofs.Settings.Record
import NodeSurvey.Proofs.Settings.Overlay
import NodeSurvey.Proofs.Agent.Debounce
import NodeSurvey.Proofs.Agent.Interval
import NodeSurvey.Proofs.Agent.Oneshot
import NodeSurvey.Proofs.Labeler.Credentials
import NodeSurvey.Proofs.Agent.Ending
import NodeSurvey.Proofs.Labeler.Session
import NodeSurvey.Proofs.Watch.Relevance
import NodeSurvey.Proofs.Watch.Placing
import NodeSurvey.Proofs.Host.Walk
import NodeSurvey.Proofs.Source.Request
import NodeSurvey.Proofs.Source.Contribution
import NodeSurvey.Proofs.Source.Selection
import NodeSurvey.Proofs.Label.Whitelist
import NodeSurvey.Proofs.Label.Naming
import NodeSurvey.Proofs.Source.Prefixes
import NodeSurvey.Proofs.Regex.Language
import NodeSurvey.Proofs.Label.Pattern
import NodeSurvey.Proofs.Label.Grammar
import NodeSurvey.Proofs.Duration.Grammar
import NodeSurvey.Proofs.Path.CleanForm
import NodeSurvey.Proofs.Yaml.Keys
import NodeSurvey.Proofs.Yaml.Merge
import NodeSurvey.Proofs.Yaml.Document
import NodeSurvey.Proofs.Settings.Steady
import NodeSurvey.Proofs.Settings.Labels
import NodeSurvey.Proofs.Config.Again
import NodeSurvey.Proofs.Source.Lines
import NodeSurvey.Proofs.Source.Devices
import NodeSurvey.Proofs.Source.Rules
import NodeSurvey.Proofs.Source.Breakdown
import NodeSurvey.Proofs.Source.ReleaseFile
import NodeSurvey.Proofs.Source.Processor
import NodeSurvey.Proofs.Path.Ascent
import NodeSurvey.Proofs.Source.Version
