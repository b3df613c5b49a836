import BlitDevice.Device.Call
import BlitDevice.Device.Text
import BlitDevice.Proofs.BlitSafety
import BlitDevice.Proofs.BlitContents
import BlitDevice.Proofs.Planes
import BlitDevice.Proofs.Procedures
import BlitDevice.Proofs.Atomicity
import BlitDevice.Proofs.Dispatch
import BlitDevice.Proofs.Runs
import BlitDevice.Proofs.Sharing
import BlitDevice.Proofs.Channels
import BlitDevice.Proofs.Order
import BlitDevice.Proofs.Recorded
import BlitDevice.Proofs.Presenting
import BlitDevice.Proofs.Regions
import BlitDevice.Proofs.Copies
import BlitDevice.Proofs.LumaContents
import BlitDevice.Proofs.Pictures
import BlitDevice.Proofs.EvenSampling
import BlitDevice.Proofs.Scaling
import BlitDevice.Proofs.Mirroring
import BlitDevice.Proofs.QuadShape
import BlitDevice.Proofs.NonFinite
import BlitDevice.Proofs.ExactProjection
import BlitDevice.Proofs.Descriptors
import BlitDevice.Proofs.DecodedImages
import BlitDevice.Proofs.PictureReading
import BlitDevice.Proofs.ParameterWrites
import BlitDevice.Proofs.ProjectionStack
import BlitDevice.Proofs.Addressing
import BlitDevice.Proofs.Subsampling
import BlitDevice.Proofs.TextureCoordinates
